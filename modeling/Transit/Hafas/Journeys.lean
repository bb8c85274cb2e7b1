import Transit.Hafas.Boards
import Transit.Hafas.Places
/-! Journey searches and their continuations, and with them the provider that a client makes of its
backend. -/
namespace Transit.Hafas.Client

variable {σ : Type}

structure JourneyPage where
  header : ResultHeader
  address : Url
  trips : List Trip
  earlierRef : Option String
  laterRef : Option String

/-- The places of a journey search: all found, or one of them not known, or some ambiguous. -/
inductive Endpoints
  | resolved (origin : Location) (via : Option Location) (destination : Location)
  | unknown (status : TripsStatus)
  | ambiguous (origin via destination : List Location)

/-- An unknown place comes before an ambiguous one. -/
def combine : Resolution → Option Resolution → Resolution → Endpoints
  | .unknown, _, _ => .unknown .unknownFrom
  | _, some .unknown, _ => .unknown .unknownVia
  | _, _, .unknown => .unknown .unknownTo
  | .unique origin, none, .unique destination => .resolved origin none destination
  | .unique origin, some (.unique via), .unique destination =>
    .resolved origin (some via) destination
  | origin, via, destination =>
    .ambiguous origin.candidates ((via.map Resolution.candidates).getD []) destination.candidates

def resolveVia (c : Client) (backend : Backend σ) : Option Location → Fetched σ (Option Resolution)
  | none => return none
  | some l => do return some (← c.resolve backend l)

def resolveEndpoints (c : Client) (backend : Backend σ) (q : TripsQuery) :
    Fetched σ Endpoints := do
  let origin ← c.resolve backend q.origin
  let via ← c.resolveVia backend q.via
  let destination ← c.resolve backend q.destination
  return combine origin via destination

/-- The status that a failed search stands for. -/
def failureStatus (e : Error) : TripsStatus :=
  match e.tripsStatus? with
  | some status => status
  | none => if e.isNotFound then .noTrips else .serviceDown

/-- Each readable trip once. -/
def tripsOf (journeys : List Json) : List Trip := distinct (journeys.filterMap tripOf?)

def pageOf (c : Client) (address : Url) (answer : JourneysAnswer) : JourneyPage :=
  { header := c.header answer.updatedAt
    address
    trips := tripsOf answer.journeys
    earlierRef := answer.earlierRef
    laterRef := answer.laterRef }

def journeys (c : Client) (backend : Backend σ) (params : Params) : Fetched σ JourneyPage := do
  let (address, answer) ← c.fetchAs backend JourneysAnswer.ofJson? ["journeys"] params
  return c.pageOf address answer

/-- A failure of the backend is told by the status. -/
def failed (c : Client) (e : Error) : TripsResult := .bare (c.header none) (failureStatus e)

def found (page : JourneyPage) (token : JourneyToken) : TripsResult :=
  { TripsResult.found page.header page.trips token.toContext with
    queryUri := some page.address.text }

/-- The first page of a session. A page without trips opens none. -/
def opening (params : Params) (origin : Location) (via : Option Location) (destination : Location)
    (page : JourneyPage) : TripsResult :=
  if page.trips.isEmpty then .bare page.header .noTrips
  else
    { found page ⟨params, page.earlierRef, page.laterRef⟩ with
      origin := some origin, via, destination := some destination }

def searchJourneys (c : Client) (backend : Backend σ) (q : TripsQuery) (origin : Location)
    (via : Option Location) (destination : Location) : StateM σ (Outcome TripsResult) :=
  match journeyParams c.config q origin via destination with
  | .error e => return .error e
  | .ok params => do
    match ← c.journeys backend (params ++ [timeParam q]) with
    | .error e => return .ok (c.failed e)
    | .ok page => return .ok (opening params origin via destination page)

def requestTrips (c : Client) (backend : Backend σ) (q : TripsQuery) :
    StateM σ (Outcome TripsResult) := do
  match ← c.resolveEndpoints backend q with
  | .error _ => return .ok (.serviceDown (c.header none))
  | .ok (.unknown status) => return .ok (.bare (c.header none) status)
  | .ok (.ambiguous origin via destination) =>
    return .ok (.ambiguous (c.header none) origin via destination)
  | .ok (.resolved origin via destination) => c.searchJourneys backend q origin via destination

/-- Goes on from a token; the reference at the other end is kept for the way back. -/
def continueJourneys (c : Client) (backend : Backend σ) (token : JourneyToken)
    (direction : Direction) : StateM σ (Outcome TripsResult) :=
  match token.reference direction with
  | none => return .error (.precondition ("context has no " ++ direction.name ++ " reference"))
  | some reference => do
    match ← c.journeys backend (token.params ++ [referenceParam direction reference]) with
    | .error e => return .ok (c.failed e)
    | .ok page => return .ok (found page (token.advance direction page.earlierRef page.laterRef))

def requestMoreTrips (c : Client) (backend : Backend σ) (context : TripsContext)
    (direction : Direction) : StateM σ (Outcome TripsResult) :=
  match JourneyToken.ofContext context with
  | .error e => return .error e
  | .ok token => c.continueJourneys backend token direction

def provider (c : Client) (backend : Backend σ) : Provider σ :=
  { name := providerName
    capabilities := [.suggest, .nearby, .departures, .trips, .tripsVia]
    suggestLocations := c.suggestLocations backend
    queryNearby := c.queryNearby backend
    queryDepartures := c.queryDepartures backend
    requestTrips := c.requestTrips backend
    requestMoreTrips := c.requestMoreTrips backend }

end Transit.Hafas.Client
