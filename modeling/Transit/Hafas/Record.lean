import Transit.Instant.Text
import Transit.Json.Reader
/-! Records as the backend sends them. -/
namespace Transit.Hafas

def int64? : Json → Option Int := Json.intIn? (-twoTo 63) (twoTo 63 - 1)

/-- A station, address, point of interest or coordinate. Stops have their coordinate in a location
of their own. -/
inductive RawLocation
  | mk (kind id name address : Option String) (poi : Option Bool)
    (latitude longitude : Option Binary64) (location : Option RawLocation)
    (distance : Option UInt32)

namespace RawLocation

def kind : RawLocation → Option String
  | .mk kind _ _ _ _ _ _ _ _ => kind

def id : RawLocation → Option String
  | .mk _ id _ _ _ _ _ _ _ => id

def name : RawLocation → Option String
  | .mk _ _ name _ _ _ _ _ _ => name

def address : RawLocation → Option String
  | .mk _ _ _ address _ _ _ _ _ => address

def poi : RawLocation → Option Bool
  | .mk _ _ _ _ poi _ _ _ _ => poi

def latitude : RawLocation → Option Binary64
  | .mk _ _ _ _ _ latitude _ _ _ => latitude

def longitude : RawLocation → Option Binary64
  | .mk _ _ _ _ _ _ longitude _ _ => longitude

def location : RawLocation → Option RawLocation
  | .mk _ _ _ _ _ _ _ location _ => location

def distance : RawLocation → Option UInt32
  | .mk _ _ _ _ _ _ _ _ distance => distance

def fieldNames : List String :=
  ["type", "id", "name", "address", "poi", "latitude", "longitude", "location", "distance"]

/-- Reads up to `depth` locations within each other. -/
def nested? : Nat → Json → Option RawLocation
  | 0, _ => none
  | depth + 1, j => do
    let r ← j.record? fieldNames
    let kind ← r.optional "type" Json.string?
    let id ← r.optional "id" Json.string?
    let name ← r.optional "name" Json.string?
    let address ← r.optional "address" Json.string?
    let poi ← r.optional "poi" Json.bool?
    let latitude ← r.optional "latitude" Json.number?
    let longitude ← r.optional "longitude" Json.number?
    let location ← r.optional "location" (nested? depth)
    let distance ← r.optional "distance" Json.uint32?
    some (.mk kind id name address poi latitude longitude location distance)

/-- A text has no deeper nesting than the bound. -/
def ofJson? (j : Json) : Option RawLocation := nested? (Json.deepest + 1) j

end RawLocation

structure RawLine where
  id : Option String
  name : Option String
  product : Option String
  mode : Option String
  operator : Option (Option String)
  color : Option (Option String × Option String)

namespace RawLine

/-- The name of an operator. -/
def operatorOfJson? (j : Json) : Option (Option String) := do
  let r ← j.record? ["name"]
  r.optional "name" Json.string?

/-- Foreground and background. -/
def colorOfJson? (j : Json) : Option (Option String × Option String) := do
  let r ← j.record? ["fg", "bg"]
  let fg ← r.optional "fg" Json.string?
  let bg ← r.optional "bg" Json.string?
  some (fg, bg)

def ofJson? (j : Json) : Option RawLine := do
  let r ← j.record? ["id", "name", "product", "mode", "operator", "color"]
  some {
    id := ← r.optional "id" Json.string?
    name := ← r.optional "name" Json.string?
    product := ← r.optional "product" Json.string?
    mode := ← r.optional "mode" Json.string?
    operator := ← r.optional "operator" operatorOfJson?
    color := ← r.optional "color" colorOfJson? }

end RawLine

structure RawRemark where
  kind : Option String
  text : Option String

def RawRemark.ofJson? (j : Json) : Option RawRemark := do
  let r ← j.record? ["type", "text"]
  some ⟨← r.optional "type" Json.string?, ← r.optional "text" Json.string?⟩

structure RawStopover where
  stop : RawLocation
  arrival : Option Instant
  plannedArrival : Option Instant
  arrivalDelay : Option Int
  arrivalPlatform : Option String
  plannedArrivalPlatform : Option String
  departure : Option Instant
  plannedDeparture : Option Instant
  departureDelay : Option Int
  departurePlatform : Option String
  plannedDeparturePlatform : Option String
  cancelled : Bool

namespace RawStopover

def fieldNames : List String :=
  ["stop", "arrival", "plannedArrival", "arrivalDelay", "arrivalPlatform",
    "plannedArrivalPlatform", "departure", "plannedDeparture", "departureDelay",
    "departurePlatform", "plannedDeparturePlatform", "cancelled"]

def ofJson? (j : Json) : Option RawStopover := do
  let r ← j.record? fieldNames
  some {
    stop := ← r.required "stop" RawLocation.ofJson?
    arrival := ← r.optional "arrival" Instant.ofJson?
    plannedArrival := ← r.optional "plannedArrival" Instant.ofJson?
    arrivalDelay := ← r.optional "arrivalDelay" int64?
    arrivalPlatform := ← r.optional "arrivalPlatform" Json.string?
    plannedArrivalPlatform := ← r.optional "plannedArrivalPlatform" Json.string?
    departure := ← r.optional "departure" Instant.ofJson?
    plannedDeparture := ← r.optional "plannedDeparture" Instant.ofJson?
    departureDelay := ← r.optional "departureDelay" int64?
    departurePlatform := ← r.optional "departurePlatform" Json.string?
    plannedDeparturePlatform := ← r.optional "plannedDeparturePlatform" Json.string?
    cancelled := ← r.defaulted "cancelled" false Json.bool? }

end RawStopover

/-- Geometry: an encoded polyline, or the coordinates of the features of a collection. -/
inductive RawPath
  | encoded (text : String)
  | features (coordinates : List (List Binary64))

namespace RawPath

def pointOfJson? (j : Json) : Option (List Binary64) := do
  let r ← j.record? ["coordinates"]
  r.required "coordinates" (Json.list? Json.number?)

def featureOfJson? (j : Json) : Option (List Binary64) := do
  let r ← j.record? ["geometry"]
  r.required "geometry" pointOfJson?

def ofJson? : Json → Option RawPath
  | .str s => some (.encoded s)
  | j => do
    let r ← j.record? ["features"]
    some (.features (← r.required "features" (Json.list? featureOfJson?)))

end RawPath

structure RawLeg where
  origin : Option RawLocation
  destination : Option RawLocation
  departure : Option Instant
  plannedDeparture : Option Instant
  departureDelay : Option Int
  departurePlatform : Option String
  plannedDeparturePlatform : Option String
  arrival : Option Instant
  plannedArrival : Option Instant
  arrivalDelay : Option Int
  arrivalPlatform : Option String
  plannedArrivalPlatform : Option String
  line : Option Json
  direction : Option String
  walking : Bool
  transfer : Bool
  distance : Option UInt32
  stopovers : List Json
  polyline : Option RawPath
  cancelled : Bool
  remarks : List RawRemark

namespace RawLeg

def fieldNames : List String :=
  ["origin", "destination", "departure", "plannedDeparture", "departureDelay",
    "departurePlatform", "plannedDeparturePlatform", "arrival", "plannedArrival", "arrivalDelay",
    "arrivalPlatform", "plannedArrivalPlatform", "line", "direction", "walking", "transfer",
    "distance", "stopovers", "polyline", "cancelled", "remarks"]

def ofJson? (j : Json) : Option RawLeg := do
  let r ← j.record? fieldNames
  some {
    origin := ← r.optional "origin" RawLocation.ofJson?
    destination := ← r.optional "destination" RawLocation.ofJson?
    departure := ← r.optional "departure" Instant.ofJson?
    plannedDeparture := ← r.optional "plannedDeparture" Instant.ofJson?
    departureDelay := ← r.optional "departureDelay" int64?
    departurePlatform := ← r.optional "departurePlatform" Json.string?
    plannedDeparturePlatform := ← r.optional "plannedDeparturePlatform" Json.string?
    arrival := ← r.optional "arrival" Instant.ofJson?
    plannedArrival := ← r.optional "plannedArrival" Instant.ofJson?
    arrivalDelay := ← r.optional "arrivalDelay" int64?
    arrivalPlatform := ← r.optional "arrivalPlatform" Json.string?
    plannedArrivalPlatform := ← r.optional "plannedArrivalPlatform" Json.string?
    line := ← r.optional "line" some
    direction := ← r.optional "direction" Json.string?
    walking := ← r.defaulted "walking" false Json.bool?
    transfer := ← r.defaulted "transfer" false Json.bool?
    distance := ← r.optional "distance" Json.uint32?
    stopovers := ← r.defaulted "stopovers" [] (Json.list? some)
    polyline := ← r.optional "polyline" RawPath.ofJson?
    cancelled := ← r.defaulted "cancelled" false Json.bool?
    remarks := ← r.defaulted "remarks" [] (Json.list? RawRemark.ofJson?) }

end RawLeg

structure RawJourney where
  legs : List RawLeg
  refreshToken : Option String

def RawJourney.ofJson? (j : Json) : Option RawJourney := do
  let r ← j.record? ["legs", "refreshToken"]
  some ⟨← r.required "legs" (Json.list? RawLeg.ofJson?),
    ← r.optional "refreshToken" Json.string?⟩

structure RawDeparture where
  tripId : Option String
  stop : Option RawLocation
  when? : Option Instant
  plannedWhen : Option Instant
  delay : Option Int
  platform : Option String
  plannedPlatform : Option String
  direction : Option String
  line : Option Json
  destination : Option RawLocation
  cancelled : Bool
  remarks : List RawRemark

namespace RawDeparture

def fieldNames : List String :=
  ["tripId", "stop", "when", "plannedWhen", "delay", "platform", "plannedPlatform", "direction",
    "line", "destination", "cancelled", "remarks"]

def ofJson? (j : Json) : Option RawDeparture := do
  let r ← j.record? fieldNames
  some {
    tripId := ← r.optional "tripId" Json.string?
    stop := ← r.optional "stop" RawLocation.ofJson?
    when? := ← r.optional "when" Instant.ofJson?
    plannedWhen := ← r.optional "plannedWhen" Instant.ofJson?
    delay := ← r.optional "delay" int64?
    platform := ← r.optional "platform" Json.string?
    plannedPlatform := ← r.optional "plannedPlatform" Json.string?
    direction := ← r.optional "direction" Json.string?
    line := ← r.optional "line" some
    destination := ← r.optional "destination" RawLocation.ofJson?
    cancelled := ← r.defaulted "cancelled" false Json.bool?
    remarks := ← r.defaulted "remarks" [] (Json.list? RawRemark.ofJson?) }

end RawDeparture

/-- A page of journeys. Each journey is a value to be looked into on its own. -/
structure JourneysAnswer where
  journeys : List Json
  earlierRef : Option String
  laterRef : Option String
  updatedAt : Option Int

def JourneysAnswer.ofJson? (j : Json) : Option JourneysAnswer := do
  let r ← j.record? ["journeys", "earlierRef", "laterRef", "realtimeDataUpdatedAt"]
  some {
    journeys := ← r.defaulted "journeys" [] (Json.list? Json.settle)
    earlierRef := ← r.optional "earlierRef" Json.string?
    laterRef := ← r.optional "laterRef" Json.string?
    updatedAt := ← r.optional "realtimeDataUpdatedAt" int64? }

/-- Departures come in an object, or as a list by themselves. -/
structure DeparturesAnswer where
  departures : List Json
  updatedAt : Option Int

namespace DeparturesAnswer

def wrapped? : Json → Option DeparturesAnswer
  | .obj fields => do
    let r ← Json.record? ["departures", "realtimeDataUpdatedAt"] (.obj fields)
    some ⟨← r.required "departures" (Json.list? Json.settle),
      ← r.optional "realtimeDataUpdatedAt" int64?⟩
  | _ => none

def ofJson? (j : Json) : Option DeparturesAnswer :=
  if j.isSettled then wrapped? j <|> (j.list? Json.settle).map (⟨·, none⟩) else none

end DeparturesAnswer

/-- The body of an answer that reports an error. -/
structure ErrorBody where
  isHafasError : Option Bool
  code : Option String
  hafasCode : Option String
  message : Option String
  msg : Option String

def ErrorBody.ofJson? (j : Json) : Option ErrorBody := do
  let r ← j.record? ["isHafasError", "code", "hafasCode", "message", "msg"]
  some {
    isHafasError := ← r.optional "isHafasError" Json.bool?
    code := ← r.optional "code" Json.string?
    hafasCode := ← r.optional "hafasCode" Json.string?
    message := ← r.optional "message" Json.string?
    msg := ← r.optional "msg" Json.string? }

end Transit.Hafas
