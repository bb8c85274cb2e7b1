import Transit.Instant.Text
import Transit.Location
import Transit.Product
import Transit.ProviderError
import Transit.Text
/-! What a provider can be asked. -/
namespace Transit

/-- Zero results stand for the provider's own limit, here and below. -/
structure SuggestQuery where
  words : String
  types : LocationTypes := .all
  maxResults : Nat := 0

namespace SuggestQuery

def toJson (q : SuggestQuery) : Json :=
  .obj [("text", .str q.words), ("types", q.types.toJson), ("max_results", .nat q.maxResults)]

def ofJson? (j : Json) : Option SuggestQuery := do
  let r ← j.record? ["text", "types", "max_results"]
  some {
    words := ← r.required "text" Json.string?
    types := ← r.required "types" LocationTypes.ofJson?
    maxResults := ← r.required "max_results" Json.count? }

end SuggestQuery

structure NearbyQuery where
  anchor : Location
  types : LocationTypes := .stations
  maxDistance : UInt32 := 0
  maxResults : Nat := 0

namespace NearbyQuery

def validate (q : NearbyQuery) : Except ProviderError Unit :=
  if q.anchor.coordinate.isNone && q.anchor.id.isNone then
    .error (.precondition "nearby anchor needs a coordinate or an id")
  else .ok ()

def toJson (q : NearbyQuery) : Json :=
  .obj [("anchor", q.anchor.toJson), ("types", q.types.toJson),
    ("max_distance_m", .nat q.maxDistance.toNat), ("max_results", .nat q.maxResults)]

def ofJson? (j : Json) : Option NearbyQuery := do
  let r ← j.record? ["anchor", "types", "max_distance_m", "max_results"]
  some {
    anchor := ← r.required "anchor" Location.ofJson?
    types := ← r.required "types" LocationTypes.ofJson?
    maxDistance := ← r.required "max_distance_m" Json.uint32?
    maxResults := ← r.required "max_results" Json.count? }

end NearbyQuery

structure DeparturesQuery where
  stationId : String
  time : Option Instant := none
  maxDepartures : Nat := 0
  equivalentStations : Bool := false

namespace DeparturesQuery

def validate (q : DeparturesQuery) : Except ProviderError Unit :=
  if Text.isBlankText q.stationId then .error (.precondition "station id is empty") else .ok ()

def toJson (q : DeparturesQuery) : Json :=
  .obj [("station_id", .str q.stationId), ("time", Json.ofOption Instant.toJson q.time),
    ("max_departures", .nat q.maxDepartures),
    ("equivalent_stations", .bool q.equivalentStations)]

def ofJson? (j : Json) : Option DeparturesQuery := do
  let r ← j.record? ["station_id", "time", "max_departures", "equivalent_stations"]
  some {
    stationId := ← r.required "station_id" Json.string?
    time := ← r.optional "time" Instant.ofJson?
    maxDepartures := ← r.required "max_departures" Json.count?
    equivalentStations := ← r.required "equivalent_stations" Json.bool? }

end DeparturesQuery

inductive Optimize
  | leastDuration
  | leastChanges
  | leastWalking
deriving DecidableEq

namespace Optimize

def name : Optimize → String
  | .leastDuration => "least_duration"
  | .leastChanges => "least_changes"
  | .leastWalking => "least_walking"

def toJson (o : Optimize) : Json := .str o.name

def ofJson? (j : Json) : Option Optimize :=
  j.choice? ([leastDuration, leastChanges, leastWalking].map fun o => (o.name, o))

end Optimize

inductive WalkSpeed
  | slow
  | normal
  | fast
deriving DecidableEq

namespace WalkSpeed

def name : WalkSpeed → String
  | .slow => "slow"
  | .normal => "normal"
  | .fast => "fast"

def toJson (s : WalkSpeed) : Json := .str s.name

def ofJson? (j : Json) : Option WalkSpeed :=
  j.choice? ([slow, normal, fast].map fun s => (s.name, s))

end WalkSpeed

inductive Accessibility
  | neutral
  | limited
  | barrierFree
deriving DecidableEq

namespace Accessibility

def name : Accessibility → String
  | .neutral => "neutral"
  | .limited => "limited"
  | .barrierFree => "barrier_free"

def toJson (a : Accessibility) : Json := .str a.name

def ofJson? (j : Json) : Option Accessibility :=
  j.choice? ([neutral, limited, barrierFree].map fun a => (a.name, a))

end Accessibility

structure TripOptions where
  products : Option ProductSet := none
  optimize : Option Optimize := none
  walkSpeed : Option WalkSpeed := none
  accessibility : Option Accessibility := none

namespace TripOptions

def toJson (o : TripOptions) : Json :=
  .obj (Json.optionalField "products" ProductSet.toJson o.products ++
    Json.optionalField "optimize" Optimize.toJson o.optimize ++
    Json.optionalField "walk_speed" WalkSpeed.toJson o.walkSpeed ++
    Json.optionalField "accessibility" Accessibility.toJson o.accessibility)

def ofJson? (j : Json) : Option TripOptions := do
  let r ← j.record? ["products", "optimize", "walk_speed", "accessibility"]
  some {
    products := ← r.omissible "products" ProductSet.ofJson?
    optimize := ← r.omissible "optimize" Optimize.ofJson?
    walkSpeed := ← r.omissible "walk_speed" WalkSpeed.ofJson?
    accessibility := ← r.omissible "accessibility" Accessibility.ofJson? }

end TripOptions

/-- The time is that of the departure, or else that of the arrival. -/
structure TripsQuery where
  origin : Location
  via : Option Location := none
  destination : Location
  time : Instant
  departing : Bool := true
  options : TripOptions := {}

namespace TripsQuery

/-- A filter that leaves no product asks for nothing. -/
def validate (q : TripsQuery) : Except ProviderError Unit :=
  if q.options.products.any ProductSet.isEmpty then
    .error (.precondition "product filter is empty")
  else .ok ()

def toJson (q : TripsQuery) : Json :=
  .obj (("from", q.origin.toJson) ::
    (Json.optionalField "via" Location.toJson q.via ++
    [("to", q.destination.toJson), ("time", q.time.toJson), ("departure", .bool q.departing),
      ("options", q.options.toJson)]))

def ofJson? (j : Json) : Option TripsQuery := do
  let r ← j.record? ["from", "via", "to", "time", "departure", "options"]
  some {
    origin := ← r.required "from" Location.ofJson?
    via := ← r.omissible "via" Location.ofJson?
    destination := ← r.required "to" Location.ofJson?
    time := ← r.required "time" Instant.ofJson?
    departing := ← r.required "departure" Json.bool?
    options := ← r.defaulted "options" {} TripOptions.ofJson? }

end Transit.TripsQuery
