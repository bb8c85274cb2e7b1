import Transit.Context
import Transit.Result.Header
import Transit.Result.Status
/-! Results of trip queries and of their continuations. -/
namespace Transit

structure TripsResult where
  header : ResultHeader
  status : TripsStatus
  queryUri : Option String := none
  origin : Option Location := none
  via : Option Location := none
  destination : Option Location := none
  ambiguousFrom : List Location := []
  ambiguousVia : List Location := []
  ambiguousTo : List Location := []
  trips : List Trip := []
  context : Option TripsContext := none

namespace TripsResult

def found (header : ResultHeader) (trips : List Trip) (context : TripsContext) : TripsResult :=
  { header, status := .ok, trips, context := some context }

/-- Candidates for each place that did not resolve to one location. -/
def ambiguous (header : ResultHeader) (ambiguousFrom ambiguousVia ambiguousTo : List Location) :
    TripsResult :=
  { header, status := .ambiguous, ambiguousFrom, ambiguousVia, ambiguousTo }

/-- A result that says nothing but its status. -/
def bare (header : ResultHeader) (status : TripsStatus) : TripsResult := { header, status }

/-- A result without payload, for a status that needs none. -/
def withStatus (header : ResultHeader) (status : TripsStatus) : Except ProviderError TripsResult :=
  if status = .ok || status = .ambiguous then
    .error (.precondition (status.name ++ " result needs a payload"))
  else .ok (bare header status)

def serviceDown (header : ResultHeader) : TripsResult := bare header .serviceDown

/-- With the window put into the context, if there is one. -/
def withWindow (r : TripsResult) (window : Option DepartureWindow) : TripsResult :=
  { r with context := r.context.map fun c => { c with window } }

def toJson (r : TripsResult) : Json :=
  .obj ([("header", r.header.toJson), ("status", .str r.status.name)] ++
    Json.optionalField "query_uri" Json.str r.queryUri ++
    Json.optionalField "from" Location.toJson r.origin ++
    Json.optionalField "via" Location.toJson r.via ++
    Json.optionalField "to" Location.toJson r.destination ++
    [("ambiguous_from", Json.list Location.toJson r.ambiguousFrom),
      ("ambiguous_via", Json.list Location.toJson r.ambiguousVia),
      ("ambiguous_to", Json.list Location.toJson r.ambiguousTo),
      ("trips", Json.list Trip.toJson r.trips)] ++
    Json.optionalField "context" TripsContext.toJson r.context)

def fieldNames : List String :=
  ["header", "status", "query_uri", "from", "via", "to", "ambiguous_from", "ambiguous_via",
    "ambiguous_to", "trips", "context"]

def ofJson? (j : Json) : Option TripsResult := do
  let r ← j.record? fieldNames
  some {
    header := ← r.required "header" ResultHeader.ofJson?
    status := ← r.required "status" TripsStatus.ofJson?
    queryUri := ← r.omissible "query_uri" Json.string?
    origin := ← r.omissible "from" Location.ofJson?
    via := ← r.omissible "via" Location.ofJson?
    destination := ← r.omissible "to" Location.ofJson?
    ambiguousFrom := ← r.defaulted "ambiguous_from" [] (Json.list? Location.ofJson?)
    ambiguousVia := ← r.defaulted "ambiguous_via" [] (Json.list? Location.ofJson?)
    ambiguousTo := ← r.defaulted "ambiguous_to" [] (Json.list? Location.ofJson?)
    trips := ← r.defaulted "trips" [] (Json.list? Trip.ofJson?)
    context := ← r.omissible "context" TripsContext.ofJson? }

end Transit.TripsResult
