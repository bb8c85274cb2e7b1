import Transit.Instant.Text
import Transit.Location
import Transit.Position
/-! Stops along a leg, with planned and predicted times. -/
namespace Transit

structure Stop where
  location : Location
  plannedArrival : Option Instant := none
  predictedArrival : Option Instant := none
  arrivalPosition : Option Position := none
  arrivalCancelled : Bool := false
  plannedDeparture : Option Instant := none
  predictedDeparture : Option Instant := none
  departurePosition : Option Position := none
  departureCancelled : Bool := false
  sequence : Option UInt32 := none
  index : Option UInt32 := none
deriving BEq

/-- Predicted minus planned, when both are known. -/
def delayOf (planned predicted : Option Instant) : Option Duration :=
  match planned, predicted with
  | some planned, some predicted => some (planned.elapsed predicted)
  | _, _ => none

namespace Stop

/-- The prediction, else the plan. -/
def arrivalTime (s : Stop) : Option Instant := s.predictedArrival <|> s.plannedArrival

/-- The prediction, else the plan. -/
def departureTime (s : Stop) : Option Instant := s.predictedDeparture <|> s.plannedDeparture

def arrivalDelay (s : Stop) : Option Duration := delayOf s.plannedArrival s.predictedArrival

def departureDelay (s : Stop) : Option Duration := delayOf s.plannedDeparture s.predictedDeparture

/-- No later than: what is missing comes first. -/
def optionLe : Option UInt32 → Option UInt32 → Bool
  | none, _ => true
  | some _, none => false
  | some a, some b => a ≤ b

/-- Order along the leg, by sequence number and then by index. -/
def ordinalLe (a b : Stop) : Bool :=
  if a.sequence = b.sequence then optionLe a.index b.index else optionLe a.sequence b.sequence

def toJson (s : Stop) : Json :=
  .obj (("location", s.location.toJson) ::
    (Json.optionalField "planned_arrival" Instant.toJson s.plannedArrival ++
    Json.optionalField "predicted_arrival" Instant.toJson s.predictedArrival ++
    Json.optionalField "arrival_position" Position.toJson s.arrivalPosition ++
    [("arrival_cancelled", .bool s.arrivalCancelled)] ++
    Json.optionalField "planned_departure" Instant.toJson s.plannedDeparture ++
    Json.optionalField "predicted_departure" Instant.toJson s.predictedDeparture ++
    Json.optionalField "departure_position" Position.toJson s.departurePosition ++
    [("departure_cancelled", .bool s.departureCancelled)] ++
    Json.optionalField "stop_sequence" (fun n : UInt32 => .nat n.toNat) s.sequence ++
    Json.optionalField "stop_index" (fun n : UInt32 => .nat n.toNat) s.index))

def fieldNames : List String :=
  ["location", "planned_arrival", "predicted_arrival", "arrival_position", "arrival_cancelled",
    "planned_departure", "predicted_departure", "departure_position", "departure_cancelled",
    "stop_sequence", "stop_index"]

def ofJsonWith? (blank : Json.Blank) (j : Json) : Option Stop := do
  let r ← j.record? fieldNames
  some {
    location := ← r.required "location" (Location.ofJsonWith? blank)
    plannedArrival := ← r.omissible "planned_arrival" Instant.ofJson?
    predictedArrival := ← r.omissible "predicted_arrival" Instant.ofJson?
    arrivalPosition := ← r.omissible "arrival_position" Position.ofJson?
    arrivalCancelled := ← r.defaulted "arrival_cancelled" false Json.bool?
    plannedDeparture := ← r.omissible "planned_departure" Instant.ofJson?
    predictedDeparture := ← r.omissible "predicted_departure" Instant.ofJson?
    departurePosition := ← r.omissible "departure_position" Position.ofJson?
    departureCancelled := ← r.defaulted "departure_cancelled" false Json.bool?
    sequence := ← r.omissible "stop_sequence" Json.uint32?
    index := ← r.omissible "stop_index" Json.uint32? }

def ofJson? : Json → Option Stop := ofJsonWith? .null

end Transit.Stop
