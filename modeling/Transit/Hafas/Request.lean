import Transit.Hafas.Config
import Transit.Hafas.Token
import Transit.Query
/-! Parameters of the requests to a backend. -/
namespace Transit.Hafas

def flag (b : Bool) : String := if b then "true" else "false"

def numeral (n : Nat) : String := toString n

def searchParams (config : Config) (words : String) (types : LocationTypes) (limit : Nat) :
    Params :=
  [("query", words), ("results", numeral limit), ("stops", flag (types.contains .station)),
    ("addresses", flag (types.contains .address)), ("poi", flag (types.contains .poi)),
    ("fuzzy", flag true), ("linesOfStops", flag false), ("language", config.language)]

def stationParams (config : Config) : Params := [("language", config.language)]

/-- No distance means no bound on it. -/
def nearbyParams (config : Config) (q : NearbyQuery) (center : Point) (limit : Nat) : Params :=
  [("latitude", Point.degreeText center.lat), ("longitude", Point.degreeText center.lon),
    ("results", numeral limit), ("stops", flag (q.types.contains .station)),
    ("poi", flag (q.types.contains .poi)), ("linesOfStops", flag false),
    ("language", config.language)] ++
    if q.maxDistance = 0 then [] else [("distance", numeral q.maxDistance.toNat)]

/-- Length of the time span on a board. -/
def boardMinutes : Nat := 60

def boardParams (config : Config) (q : DeparturesQuery) (limit : Nat) : Params :=
  [("results", numeral limit), ("duration", numeral boardMinutes),
    ("includeRelatedStations", flag q.equivalentStations), ("remarks", flag true),
    ("linesOfStops", flag false), ("language", config.language)] ++
    match q.time with
    | some t => [("when", t.offsetText)]
    | none => []

/-- How one end of a journey is told to the backend: a station by its id, a point of interest by
all that is known, anything else by its coordinate. -/
def endpointParams (role : String) (l : Location) : Except ProviderError Params :=
  match l.kind, l.id, l.coordinate with
  | .station, some id, _ => .ok [(role, id)]
  | .poi, some id, some p =>
    .ok [(role ++ ".id", id), (role ++ ".name", l.shortName),
      (role ++ ".latitude", Point.degreeText p.lat),
      (role ++ ".longitude", Point.degreeText p.lon)]
  | _, _, some p =>
    .ok [(role ++ ".latitude", Point.degreeText p.lat),
      (role ++ ".longitude", Point.degreeText p.lon), (role ++ ".address", l.shortName)]
  | _, _, none =>
    .error (.precondition (role ++ " location has neither a station id nor a coordinate"))

def viaParams : Option Location → Except ProviderError Params
  | none => .ok []
  | some l => match l.kind, l.id with
    | .station, some id => .ok [("via", id)]
    | _, _ => .error (.precondition "via must be a station")

/-- The switches of the backend and the products behind them. Cable cars have none. -/
def productSwitches : List (String × Product) :=
  [("nationalExpress", .rail), ("national", .rail), ("regionalExpress", .rail),
    ("regional", .rail), ("suburban", .rail), ("subway", .subway), ("tram", .tram),
    ("bus", .bus), ("ferry", .ferry), ("taxi", .onDemand)]

/-- Nothing but cable cars, which cannot be filtered. -/
def isUnfiltered (s : ProductSet) : Bool := s.contains .cableCar && (s.erase .cableCar).isEmpty

def productParams (s : ProductSet) : Except ProviderError Params :=
  if isUnfiltered s then
    .error (.precondition ("no product in " ++ s.text ++ " can be filtered"))
  else .ok (productSwitches.map fun (name, p) => (name, flag (s.contains p)))

def speedParam : WalkSpeed → String × String
  | .slow => ("walkingSpeed", "slow")
  | .normal => ("walkingSpeed", "normal")
  | .fast => ("walkingSpeed", "fast")

def accessParam : Accessibility → String × String
  | .neutral => ("accessibility", "none")
  | .limited => ("accessibility", "partial")
  | .barrierFree => ("accessibility", "complete")

/-- Only the fewest changes can be asked for. -/
def optimizeParams : Optimize → Params
  | .leastChanges => [("transfers", numeral 0)]
  | _ => []

def optionParams (o : TripOptions) : Params :=
  (o.walkSpeed.map speedParam).toList ++ (o.accessibility.map accessParam).toList ++
    (o.optimize.map optimizeParams).getD []

def pageParams (config : Config) : Params :=
  [("results", numeral config.maxResults), ("stopovers", flag config.includeStopovers),
    ("polylines", flag config.includePolylines), ("remarks", flag true),
    ("language", config.language)]

/-- The parameters of a journey search that its continuations repeat: all but the time. -/
def journeyParams (config : Config) (q : TripsQuery) (origin : Location) (via : Option Location)
    (destination : Location) : Except ProviderError Params := do
  let origin ← endpointParams "from" origin
  let via ← viaParams via
  let destination ← endpointParams "to" destination
  let products ← productParams (q.options.products.getD config.defaultProducts)
  return origin ++ via ++ destination ++ pageParams config ++ products ++ optionParams q.options

def timeParam (q : TripsQuery) : String × String :=
  (if q.departing then "departure" else "arrival", q.time.offsetText)

def referenceParam (direction : Direction) (reference : String) : String × String :=
  match direction with
  | .later => ("laterThan", reference)
  | .earlier => ("earlierThan", reference)

end Transit.Hafas
