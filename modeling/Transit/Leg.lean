import Transit.Line
import Transit.Stop
/-! Legs: rides on a line, and segments travelled on one's own. -/
namespace Transit

inductive IndividualKind
  | walk
  | bike
  | car
  | transfer
deriving DecidableEq

namespace IndividualKind

def name : IndividualKind → String
  | .walk => "walk"
  | .bike => "bike"
  | .car => "car"
  | .transfer => "transfer"

def label : IndividualKind → String
  | .walk => "Walk"
  | .bike => "Bike"
  | .car => "Car"
  | .transfer => "Transfer"

def ofJsonWith? (blank : Json.Blank) : Json → Option IndividualKind :=
  Json.choiceWith? blank ([walk, bike, car, transfer].map fun k => (k.name, k))

def ofJson? : Json → Option IndividualKind := ofJsonWith? .null

end IndividualKind

structure PublicLeg where
  line : Line
  destination : Option String := none
  departureStop : Stop
  arrivalStop : Stop
  intermediateStops : List Stop := []
  path : List Point := []
  message : Option String := none
deriving BEq

namespace PublicLeg

/-- A ride needs a departure time where it starts and an arrival time where it ends. -/
def build (line : Line) (departureStop arrivalStop : Stop) : Except EntityError PublicLeg :=
  if departureStop.departureTime.isNone then
    .error (.missingTime ("departure at " ++ departureStop.location.text))
  else if arrivalStop.arrivalTime.isNone then
    .error (.missingTime ("arrival at " ++ arrivalStop.location.text))
  else .ok { line, departureStop, arrivalStop }

/-- In the order of their ordinals, those without first. -/
def withIntermediateStops (l : PublicLeg) (stops : List Stop) : PublicLeg :=
  { l with intermediateStops := stops.mergeSort Stop.ordinalLe }

/-- Boarding or alighting is cancelled. -/
def isCancelled (l : PublicLeg) : Bool :=
  l.departureStop.departureCancelled || l.arrivalStop.arrivalCancelled

def pathField (path : List Point) : List (String × Json) :=
  if path.isEmpty then [] else [("path", Json.list Point.toJson path)]

def jsonFields (l : PublicLeg) : List (String × Json) :=
  ("line", l.line.toJson) ::
    (Json.optionalField "destination" Json.str l.destination ++
    [("departure_stop", l.departureStop.toJson), ("arrival_stop", l.arrivalStop.toJson),
      ("intermediate_stops", Json.list Stop.toJson l.intermediateStops)] ++
    pathField l.path ++
    Json.optionalField "message" Json.str l.message)

def toJson (l : PublicLeg) : Json := .obj l.jsonFields

def fieldNames : List String :=
  ["line", "destination", "departure_stop", "arrival_stop", "intermediate_stops", "path",
    "message"]

def ofJsonWith? (blank : Json.Blank) (j : Json) : Option PublicLeg := do
  let r ← j.record? fieldNames
  some {
    line := ← r.required "line" (Line.ofJsonWith? blank)
    destination := ← r.omissible "destination" Json.string?
    departureStop := ← r.required "departure_stop" (Stop.ofJsonWith? blank)
    arrivalStop := ← r.required "arrival_stop" (Stop.ofJsonWith? blank)
    intermediateStops := ← r.defaulted "intermediate_stops" [] (Json.list? (Stop.ofJsonWith? blank))
    path := ← r.defaulted "path" [] (Json.list? Point.ofJson?)
    message := ← r.omissible "message" Json.string? }

def ofJson? : Json → Option PublicLeg := ofJsonWith? .null

end PublicLeg

structure IndividualLeg where
  kind : IndividualKind
  departureStop : Stop
  arrivalStop : Stop
  distance : UInt32 := 0
  path : List Point := []
deriving BEq

namespace IndividualLeg

def between (kind : IndividualKind) (departure : Location) (departureTime : Instant)
    (arrival : Location) (arrivalTime : Instant) : IndividualLeg :=
  { kind
    departureStop := { location := departure, plannedDeparture := some departureTime }
    arrivalStop := { location := arrival, plannedArrival := some arrivalTime } }

def jsonFields (l : IndividualLeg) : List (String × Json) :=
  [("kind", .str l.kind.name), ("departure_stop", l.departureStop.toJson),
    ("arrival_stop", l.arrivalStop.toJson), ("distance_m", .nat l.distance.toNat)] ++
    PublicLeg.pathField l.path

def toJson (l : IndividualLeg) : Json := .obj l.jsonFields

def ofJsonWith? (blank : Json.Blank) (j : Json) : Option IndividualLeg := do
  let r ← j.record? ["kind", "departure_stop", "arrival_stop", "distance_m", "path"]
  some {
    kind := ← r.required "kind" (IndividualKind.ofJsonWith? blank)
    departureStop := ← r.required "departure_stop" (Stop.ofJsonWith? blank)
    arrivalStop := ← r.required "arrival_stop" (Stop.ofJsonWith? blank)
    distance := ← r.defaulted "distance_m" 0 Json.uint32?
    path := ← r.defaulted "path" [] (Json.list? Point.ofJson?) }

def ofJson? : Json → Option IndividualLeg := ofJsonWith? .null

end IndividualLeg

inductive Leg
  | ride (leg : PublicLeg)
  | individual (leg : IndividualLeg)
deriving BEq

namespace Leg

def departureStop : Leg → Stop
  | .ride l => l.departureStop
  | .individual l => l.departureStop

def arrivalStop : Leg → Stop
  | .ride l => l.arrivalStop
  | .individual l => l.arrivalStop

def departure (l : Leg) : Location := l.departureStop.location

def arrival (l : Leg) : Location := l.arrivalStop.location

def departureTime (l : Leg) : Option Instant := l.departureStop.departureTime

def arrivalTime (l : Leg) : Option Instant := l.arrivalStop.arrivalTime

def path : Leg → List Point
  | .ride l => l.path
  | .individual l => l.path

def ride? : Leg → Option PublicLeg
  | .ride l => some l
  | .individual _ => none

def isRide (l : Leg) : Bool := l.ride?.isSome

/-- The kind of leg stands in a field of its own, before the others. -/
def toJson : Leg → Json
  | .ride l => .obj (("type", .str "public") :: l.jsonFields)
  | .individual l => .obj (("type", .str "individual") :: l.jsonFields)

/-- The kind of leg, and the rest: the other fields of an object, or of a list whose first item
is the kind. -/
def tagged? : Json → Option (String × Json)
  | .obj fields => match fields.filter (·.1 == "type") with
    | [(_, .str tag)] => some (tag, .obj (fields.filter (·.1 != "type")))
    | _ => none
  | .arr (.str tag :: items) => some (tag, .arr items)
  | _ => none

/-- The whole leg is taken in before its kind is known, so no part of it may be refused, and an
empty object is as blank as null. -/
def ofJson? (j : Json) : Option Leg :=
  if !j.isSettled then none
  else match tagged? j with
    | some ("public", rest) => (PublicLeg.ofJsonWith? .nullOrEmpty rest).map .ride
    | some ("individual", rest) => (IndividualLeg.ofJsonWith? .nullOrEmpty rest).map .individual
    | _ => none

end Transit.Leg
