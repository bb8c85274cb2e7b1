import Transit.Line
import Transit.Stop
import Transit.Trip
/-! Departure boards of stations. -/
namespace Transit

structure Departure where
  planned : Option Instant
  predicted : Option Instant
  line : Line
  position : Option Position := none
  destination : Option Location := none
  message : Option String := none

namespace Departure

def build (planned predicted : Option Instant) (line : Line) : Except EntityError Departure :=
  if planned.isNone && predicted.isNone then
    .error (.missingTime ("departure of " ++ line.text))
  else .ok { planned, predicted, line }

/-- The prediction, else the plan; with neither, the first instant there is. -/
def time (d : Departure) : Instant := (d.predicted <|> d.planned).getD Instant.least

def delay (d : Departure) : Option Duration := delayOf d.planned d.predicted

def toJson (d : Departure) : Json :=
  .obj ([("planned_time", Json.ofOption Instant.toJson d.planned),
    ("predicted_time", Json.ofOption Instant.toJson d.predicted), ("line", d.line.toJson)] ++
    Json.optionalField "position" Position.toJson d.position ++
    Json.optionalField "destination" Location.toJson d.destination ++
    Json.optionalField "message" Json.str d.message)

def ofJson? (j : Json) : Option Departure := do
  let r ← j.record?
    ["planned_time", "predicted_time", "line", "position", "destination", "message"]
  some {
    planned := ← r.optional "planned_time" Instant.ofJson?
    predicted := ← r.optional "predicted_time" Instant.ofJson?
    line := ← r.required "line" Line.ofJson?
    position := ← r.omissible "position" Position.ofJson?
    destination := ← r.omissible "destination" Location.ofJson?
    message := ← r.omissible "message" Json.string? }

end Departure

/-- A line, and where it goes from a station. -/
structure LineDestination where
  line : Line
  destination : Option Location
deriving BEq

namespace LineDestination

def toJson (l : LineDestination) : Json :=
  .obj (("line", l.line.toJson) :: Json.optionalField "destination" Location.toJson l.destination)

def ofJson? (j : Json) : Option LineDestination := do
  let r ← j.record? ["line", "destination"]
  some ⟨← r.required "line" Line.ofJson?, ← r.omissible "destination" Location.ofJson?⟩

end LineDestination

/-- The departures from one stop, and the lines that serve it. -/
structure StationDepartures where
  location : Location
  departures : List Departure
  lines : List LineDestination

namespace StationDepartures

/-- A board in order of time, with no lines yet. -/
def build (location : Location) (departures : List Departure) : StationDepartures :=
  ⟨location, departures.mergeSort fun a b => a.time ≤ b.time, []⟩

/-- With further lines, each one once. -/
def withLines (b : StationDepartures) (lines : List LineDestination) : StationDepartures :=
  { b with lines := addNew b.lines lines }

def withOwnLines (b : StationDepartures) : StationDepartures :=
  b.withLines (b.departures.map fun d => ⟨d.line, d.destination⟩)

def truncate (b : StationDepartures) (most : Nat) : StationDepartures :=
  { b with departures := b.departures.take most }

def toJson (b : StationDepartures) : Json :=
  .obj [("location", b.location.toJson), ("departures", Json.list Departure.toJson b.departures),
    ("lines", Json.list LineDestination.toJson b.lines)]

def ofJson? (j : Json) : Option StationDepartures := do
  let r ← j.record? ["location", "departures", "lines"]
  some {
    location := ← r.required "location" Location.ofJson?
    departures := ← r.required "departures" (Json.list? Departure.ofJson?)
    lines := ← r.required "lines" (Json.list? LineDestination.ofJson?) }

end Transit.StationDepartures
