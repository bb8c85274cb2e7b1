import Transit.Json.Record
/-! Outcomes of the provider operations. Only an `ok` outcome carries what was asked for. -/
namespace Transit

inductive SuggestStatus
  | ok
deriving DecidableEq

inductive NearbyStatus
  | ok
  | invalidId
deriving DecidableEq

inductive DeparturesStatus
  | ok
  | invalidStation
  | serviceDown
deriving DecidableEq

inductive TripsStatus
  | ok
  | ambiguous
  | noTrips
  | unknownFrom
  | unknownVia
  | unknownTo
  | unknownLocation
  | tooClose
  | invalidDate
  | serviceDown
deriving DecidableEq

def SuggestStatus.name : SuggestStatus → String
  | .ok => "OK"

def SuggestStatus.ofJson? (j : Json) : Option SuggestStatus := j.choice? [("OK", .ok)]

namespace NearbyStatus

def name : NearbyStatus → String
  | .ok => "OK"
  | .invalidId => "INVALID_ID"

def ofJson? (j : Json) : Option NearbyStatus :=
  j.choice? ([ok, invalidId].map fun s => (s.name, s))

end NearbyStatus

namespace DeparturesStatus

def name : DeparturesStatus → String
  | .ok => "OK"
  | .invalidStation => "INVALID_STATION"
  | .serviceDown => "SERVICE_DOWN"

def ofJson? (j : Json) : Option DeparturesStatus :=
  j.choice? ([ok, invalidStation, serviceDown].map fun s => (s.name, s))

end DeparturesStatus

namespace TripsStatus

def all : List TripsStatus :=
  [.ok, .ambiguous, .noTrips, .unknownFrom, .unknownVia, .unknownTo, .unknownLocation, .tooClose,
    .invalidDate, .serviceDown]

def name : TripsStatus → String
  | .ok => "OK"
  | .ambiguous => "AMBIGUOUS"
  | .noTrips => "NO_TRIPS"
  | .unknownFrom => "UNKNOWN_FROM"
  | .unknownVia => "UNKNOWN_VIA"
  | .unknownTo => "UNKNOWN_TO"
  | .unknownLocation => "UNKNOWN_LOCATION"
  | .tooClose => "TOO_CLOSE"
  | .invalidDate => "INVALID_DATE"
  | .serviceDown => "SERVICE_DOWN"

def ofJson? (j : Json) : Option TripsStatus := j.choice? (all.map fun s => (s.name, s))

end Transit.TripsStatus
