import Transit.Query
import Transit.Result.Departures
import Transit.Result.Locations
import Transit.Result.Trips
/-! Providers of transit data. A provider's operations act on some state, which may hold whatever
answers its requests. Trip queries go through `queryTrips` and `queryMoreTrips`: they reject what
must not reach the backend, and keep the pages of a session in order of departure. -/
namespace Transit

inductive Capability
  | suggest
  | nearby
  | departures
  | trips
  | tripsVia
deriving DecidableEq

namespace Capability

def label : Capability → String
  | .suggest => "suggest"
  | .nearby => "nearby"
  | .departures => "departures"
  | .trips => "trips"
  | .tripsVia => "trips via"

def name : Capability → String
  | .tripsVia => "trips_via"
  | c => c.label

def toJson (c : Capability) : Json := .str c.name

def ofJson? (j : Json) : Option Capability :=
  j.choice? ([suggest, nearby, departures, trips, tripsVia].map fun c => (c.name, c))

end Capability

/-- What an operation gives, unless it fails. -/
abbrev Outcome (α : Type) := Except ProviderError α

structure Provider (σ : Type) where
  name : String
  capabilities : List Capability
  suggestLocations : SuggestQuery → StateM σ (Outcome SuggestResult)
  queryNearby : NearbyQuery → StateM σ (Outcome NearbyResult)
  queryDepartures : DeparturesQuery → StateM σ (Outcome DeparturesResult)
  requestTrips : TripsQuery → StateM σ (Outcome TripsResult)
  requestMoreTrips : TripsContext → Direction → StateM σ (Outcome TripsResult)

namespace Provider

variable {σ : Type}

def has (p : Provider σ) (c : Capability) : Bool := p.capabilities.contains c

def ensure (p : Provider σ) (c : Capability) : Except ProviderError Unit :=
  if p.has c then .ok ()
  else .error (.precondition (p.name ++ " does not support " ++ c.label))

/-- What is checked before a trip query is sent. -/
def permit (p : Provider σ) (q : TripsQuery) : Except ProviderError Unit := do
  p.ensure .trips
  if q.via.isSome then p.ensure .tripsVia
  q.validate

/-- What is checked before a continuation is sent. -/
def permitMore (p : Provider σ) (c : TripsContext) (direction : Direction) :
    Except ProviderError Unit := do
  p.ensure .trips
  if c.provider = p.name then c.ensureOpen direction
  else .error (.precondition ("context belongs to " ++ c.provider ++ ", not " ++ p.name))

/-- The window of a first page. -/
def stamp (r : TripsResult) : TripsResult := r.withWindow (DepartureWindow.ofTrips r.trips)

/-- The part of a further page that lies beyond the window, and the window with it. -/
def advance (window : Option DepartureWindow) (direction : Direction) (r : TripsResult) :
    TripsResult :=
  if r.status = .ok then
    let trips := beyond window direction r.trips
    { r with trips }.withWindow (DepartureWindow.unite (DepartureWindow.ofTrips trips) window)
  else r

/-- Opens a session. -/
def queryTrips (p : Provider σ) (q : TripsQuery) : StateM σ (Outcome TripsResult) :=
  match p.permit q with
  | .error e => pure (.error e)
  | .ok () => do return (← p.requestTrips q).map stamp

/-- Continues a session. The trips depart strictly later, or strictly earlier, than all trips seen
so far. -/
def queryMoreTrips (p : Provider σ) (c : TripsContext) (direction : Direction) :
    StateM σ (Outcome TripsResult) :=
  match p.permitMore c direction with
  | .error e => pure (.error e)
  | .ok () => do return (← p.requestMoreTrips c direction).map (advance c.window direction)

end Provider

/-- What a trip session is drawn from: a first query and its continuations. -/
structure TripSource (σ : Type) where
  query : TripsQuery → StateM σ (Outcome TripsResult)
  queryMore : TripsContext → Direction → StateM σ (Outcome TripsResult)

/-- The sessions of a provider that answers trip queries as above. -/
def Provider.tripSource (p : Provider σ) : TripSource σ := ⟨p.queryTrips, p.queryMoreTrips⟩

end Transit
