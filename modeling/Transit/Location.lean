import Transit.Point
/-! Places to depart from, to arrive at, or to be near. -/
namespace Transit

inductive LocationType
  | station
  | address
  | poi
  | coord
  | any
deriving DecidableEq

namespace LocationType

def all : List LocationType := [.station, .address, .poi, .coord, .any]

def bit : LocationType → UInt8
  | .station => 1
  | .address => 2
  | .poi => 4
  | .coord => 8
  | .any => 16

def name : LocationType → String
  | .station => "STATION"
  | .address => "ADDRESS"
  | .poi => "POI"
  | .coord => "COORD"
  | .any => "ANY"

def label : LocationType → String
  | .station => "Station"
  | .address => "Address"
  | .poi => "Poi"
  | .coord => "Coord"
  | .any => "Any"

def toJson (t : LocationType) : Json := .str t.name

def ofJsonWith? (blank : Json.Blank) : Json → Option LocationType :=
  Json.choiceWith? blank (all.map fun t => (t.name, t))

def ofJson? : Json → Option LocationType := ofJsonWith? .null

end LocationType

structure LocationTypes where
  bits : UInt8
deriving DecidableEq

namespace LocationTypes

def none : LocationTypes := ⟨0⟩

def stations : LocationTypes := ⟨LocationType.bit .station⟩

def all : LocationTypes := ⟨31⟩

def insert (s : LocationTypes) (t : LocationType) : LocationTypes := ⟨s.bits ||| t.bit⟩

def contains (s : LocationTypes) (t : LocationType) : Bool := s.bits &&& t.bit != 0

def isEmpty (s : LocationTypes) : Bool := s.bits == 0

def ofList (ts : List LocationType) : LocationTypes := ts.foldl insert none

def toJson (s : LocationTypes) : Json := .nat s.bits.toNat

def ofJson? (j : Json) : Option LocationTypes := j.uint8?.map (⟨·⟩)

end LocationTypes

structure Location where
  kind : LocationType
  id : Option String
  coordinate : Option Point
  place : Option String
  name : Option String

namespace Location

def nonEmpty (s : Option String) : Option String := s.filter (!·.isEmpty)

/-- A location whose fields fit its type: a coordinate has one, a station has an id, and an
unresolved location has neither. Empty texts count as missing. -/
def build (kind : LocationType) (id : Option String) (coordinate : Option Point)
    (place name : Option String) : Except EntityError Location :=
  let id := nonEmpty id
  let location : Location := ⟨kind, id, coordinate, nonEmpty place, nonEmpty name⟩
  match kind with
  | .coord =>
    if coordinate.isNone then .error (.invalidLocation "coordinate location without coordinate")
    else .ok location
  | .station =>
    if id.isNone then .error (.invalidLocation "station without id") else .ok location
  | .any =>
    if id.isSome || coordinate.isSome then
      .error (.invalidLocation "unresolved location may only carry a name")
    else .ok location
  | _ => .ok location

def station (id : String) : Location := ⟨.station, some id, none, none, none⟩

def atPoint (p : Point) : Location := ⟨.coord, none, some p, none, none⟩

/-- A place that is only named. -/
def any (name : String) : Location := ⟨.any, none, none, none, some name⟩

/-- An unresolved location stays without coordinate. -/
def withCoordinate (l : Location) (p : Point) : Location :=
  if l.kind = .any then l else { l with coordinate := some p }

def withPlace (l : Location) (place : String) : Location := { l with place := some place }

def withName (l : Location) (name : String) : Location := { l with name := some name }

def isUnresolved (l : Location) : Bool := l.kind = .any

/-- Locations with ids are the same when type and id are, others when type, coordinate and name
are. -/
def same (a b : Location) : Bool :=
  a.kind = b.kind && match a.id, b.id with
    | some x, some y => x = y
    | none, none => a.coordinate = b.coordinate && a.name = b.name
    | _, _ => false

instance : BEq Location := ⟨same⟩

/-- What a hash of a location is made of. -/
inductive Key
  | identified (kind : LocationType) (id : String)
  | described (kind : LocationType) (coordinate : Option Point) (name : Option String)
deriving DecidableEq

def key (l : Location) : Key :=
  match l.id with
  | some id => .identified l.kind id
  | none => .described l.kind l.coordinate l.name

/-- Name without place, else the id or the coordinate. -/
def shortName (l : Location) : String :=
  ((l.name <|> l.id) <|> l.coordinate.map Point.text).getD ""

def text (l : Location) : String :=
  match l.place, l.name with
  | some place, some name => name ++ ", " ++ place
  | _, _ => l.shortName

def toJson (l : Location) : Json :=
  .obj (("location_type", l.kind.toJson) ::
    (Json.optionalField "id" Json.str l.id ++
    Json.optionalField "coord" Point.toJson l.coordinate ++
    Json.optionalField "place" Json.str l.place ++
    Json.optionalField "name" Json.str l.name))

/-- The fields have to fit the type. -/
def ofJsonWith? (blank : Json.Blank) (j : Json) : Option Location := do
  let r ← j.record? ["location_type", "id", "coord", "place", "name"]
  let kind ← r.required "location_type" (LocationType.ofJsonWith? blank)
  let id ← r.omissible "id" Json.string?
  let coordinate ← r.omissible "coord" Point.ofJson?
  let place ← r.omissible "place" Json.string?
  let name ← r.omissible "name" Json.string?
  (build kind id coordinate place name).toOption

def ofJson? : Json → Option Location := ofJsonWith? .null

end Location

/-- A location proposed for a text; a higher priority ranks first. -/
structure SuggestedLocation where
  location : Location
  priority : Int32

namespace SuggestedLocation

def toJson (s : SuggestedLocation) : Json :=
  .obj [("location", s.location.toJson), ("priority", .int s.priority.toInt)]

def ofJson? (j : Json) : Option SuggestedLocation := do
  let r ← j.record? ["location", "priority"]
  some ⟨← r.required "location" Location.ofJson?, ← r.defaulted "priority" 0 Json.int32?⟩

end Transit.SuggestedLocation
