import Transit.Board
import Transit.Hafas.Record
import Transit.Polyline
import Transit.Trip
/-! From the records of the backend to locations, lines, legs, trips and departures. A part that
cannot be read is left out where the whole makes sense without it. -/
namespace Transit.Hafas

def productOfName? : String → Option Product
  | "nationalExpress" | "national" | "regionalExpress" | "regionalExp" | "regional" | "suburban"
  | "train" => some .rail
  | "subway" => some .subway
  | "tram" => some .tram
  | "bus" | "express_bus" => some .bus
  | "ferry" => some .ferry
  | "cablecar" | "gondola" | "funicular" => some .cableCar
  | "taxi" | "onDemand" => some .onDemand
  | _ => none

def productOfMode? : String → Option Product
  | "train" => some .rail
  | "bus" => some .bus
  | "watercraft" => some .ferry
  | "gondola" => some .cableCar
  | "taxi" => some .onDemand
  | _ => none

namespace RawLocation

def coordinate? (raw : RawLocation) : Option Point := do
  let (lat, lon) ← match raw.latitude, raw.longitude with
    | some lat, some lon => some (lat, lon)
    | _, _ => do
      let inner ← raw.location
      some (← inner.latitude, ← inner.longitude)
  (Point.ofDegrees lat lon).toOption

def type? (raw : RawLocation) : Option LocationType :=
  match raw.kind with
  | some "stop" | some "station" => some .station
  | some "location" =>
    if raw.poi = some true then some .poi
    else if raw.address.isSome then some .address
    else some .coord
  | _ => if raw.id.isSome then some .station else none

def toLocation? (raw : RawLocation) : Option Location := do
  let type ← raw.type?
  (Location.build type raw.id raw.coordinate? none (raw.name <|> raw.address)).toOption

end RawLocation

def RawPath.points : RawPath → List Point
  | .encoded text => Polyline.decode text
  | .features coordinates => coordinates.filterMap fun
    | lon :: lat :: _ => (Point.ofDegrees lat lon).toOption
    | _ => none

/-- Needs a background; the foreground may be chosen for it. -/
def styleOf? (foreground background : Option String) : Option Style :=
  match background.bind Style.parseRgb, foreground.bind Style.parseRgb with
  | some bg, some fg => some ⟨.rect, bg, fg, none⟩
  | some bg, none => some (Style.withBackground .rect bg)
  | none, _ => none

def RawLine.toLine (raw : RawLine) : Line :=
  { id := raw.id
    network := raw.operator.join
    product := (raw.product.bind productOfName?) <|> (raw.mode.bind productOfMode?)
    label := raw.name
    style := raw.color.bind fun (fg, bg) => styleOf? fg bg }

/-- An unreadable line is an empty one. -/
def lineOf (j : Json) : Line := ((RawLine.ofJson? j).map RawLine.toLine).getD {}

def positionOf? (actual planned : Option String) : Option Position :=
  ((actual <|> planned).filter (!·.isEmpty)).map (⟨·, none⟩)

/-- A time is a prediction only when its delay is known. -/
def predicted (actual : Option Instant) (delay : Option Int) : Option Instant :=
  if delay.isSome then actual else none

def RawStopover.toStop? (raw : RawStopover) (index : Nat) : Option Stop := do
  let location ← raw.stop.toLocation?
  some {
    location
    plannedArrival := raw.plannedArrival <|> raw.arrival
    predictedArrival := predicted raw.arrival raw.arrivalDelay
    arrivalPosition := positionOf? raw.arrivalPlatform raw.plannedArrivalPlatform
    arrivalCancelled := raw.cancelled
    plannedDeparture := raw.plannedDeparture <|> raw.departure
    predictedDeparture := predicted raw.departure raw.departureDelay
    departurePosition := positionOf? raw.departurePlatform raw.plannedDeparturePlatform
    departureCancelled := raw.cancelled
    index := some (UInt32.ofNat index) }

def stopOf? (j : Json) (index : Nat) : Option Stop :=
  (RawStopover.ofJson? j).bind (·.toStop? index)

/-- The readable ones of some stopovers, which are counted from `index`. -/
def stopsFrom (index : Nat) : List Json → List Stop
  | [] => []
  | j :: rest => match stopOf? j index with
    | some stop => stop :: stopsFrom (index + 1) rest
    | none => stopsFrom (index + 1) rest

/-- Without the first and the last, where one boards and alights. -/
def innerStops (stopovers : List Json) : List Stop := stopsFrom 1 stopovers.dropLast.tail

def cancelledText : String := "service cancelled"

namespace RawLeg

def message? (raw : RawLeg) : Option String :=
  if raw.cancelled then some cancelledText
  else
    let warnings := (raw.remarks.filter fun r =>
      r.kind = some "warning" || r.kind = some "status").filterMap RawRemark.text
    if warnings.isEmpty then none else some ("; ".intercalate warnings)

def isOnOnesOwn (raw : RawLeg) : Bool := raw.walking || raw.transfer || raw.line.isNone

def path (raw : RawLeg) : List Point := (raw.polyline.map RawPath.points).getD []

def individual? (raw : RawLeg) (origin destination : Location) : Option IndividualLeg := do
  let departure ← raw.departure <|> raw.plannedDeparture
  let arrival ← raw.arrival <|> raw.plannedArrival
  let kind := if raw.transfer then .transfer else .walk
  some { IndividualLeg.between kind origin departure destination arrival with
    distance := raw.distance.getD 0, path := raw.path }

def ride? (raw : RawLeg) (origin destination : Location) : Option PublicLeg := do
  let line := (raw.line.map lineOf).getD {}
  let departureStop : Stop := {
    location := origin
    plannedDeparture := raw.plannedDeparture <|> raw.departure
    predictedDeparture := predicted raw.departure raw.departureDelay
    departurePosition := positionOf? raw.departurePlatform raw.plannedDeparturePlatform
    departureCancelled := raw.cancelled }
  let arrivalStop : Stop := {
    location := destination
    plannedArrival := raw.plannedArrival <|> raw.arrival
    predictedArrival := predicted raw.arrival raw.arrivalDelay
    arrivalPosition := positionOf? raw.arrivalPlatform raw.plannedArrivalPlatform
    arrivalCancelled := raw.cancelled }
  let leg ← (PublicLeg.build line departureStop arrivalStop).toOption
  some { leg.withIntermediateStops (innerStops raw.stopovers) with
    path := raw.path, destination := raw.direction, message := raw.message? }

/-- A leg needs both ends, and its times. -/
def toLeg? (raw : RawLeg) : Option Leg := do
  let origin ← (← raw.origin).toLocation?
  let destination ← (← raw.destination).toLocation?
  if raw.isOnOnesOwn then (raw.individual? origin destination).map .individual
  else (raw.ride? origin destination).map .ride

end RawLeg

/-- A trip needs all its legs. -/
def RawJourney.toTrip? (raw : RawJourney) : Option Trip := do
  let legs ← Json.readAll RawLeg.toLeg? raw.legs
  (Trip.build raw.refreshToken legs).toOption

def tripOf? (j : Json) : Option Trip := (RawJourney.ofJson? j).bind RawJourney.toTrip?

namespace RawDeparture

def message? (raw : RawDeparture) : Option String :=
  if raw.cancelled then some cancelledText
  else (raw.remarks.find? (·.kind = some "warning")).bind RawRemark.text

def destination? (raw : RawDeparture) : Option Location :=
  (raw.destination.bind RawLocation.toLocation?) <|> raw.direction.map Location.any

def toDeparture? (raw : RawDeparture) : Option Departure := do
  let line := (raw.line.map lineOf).getD {}
  let departure ← (Departure.build (raw.plannedWhen <|> raw.when?)
    (predicted raw.when? raw.delay) line).toOption
  some { departure with
    position := positionOf? raw.platform raw.plannedPlatform
    destination := raw.destination?
    message := raw.message? }

end RawDeparture

/-- A departure, and the stop it leaves from if that can be read. -/
def departureOf? (j : Json) : Option (Option Location × Departure) := do
  let raw ← RawDeparture.ofJson? j
  some (raw.stop.bind RawLocation.toLocation?, ← raw.toDeparture?)

end Transit.Hafas
