import Transit.Location
import Transit.Proofs.Json.Fields

/-! # Locations that fit their type

A location is built only if its fields fit its type. What has been built can be built again from its
own fields, and comes out as it was; so it is read back from its JSON.
-/
namespace Transit

open Json (Blank given)
open Json.Record (required_given omissible_given)

theorem eq_ok_of_toOption {ε α : Type} {x : Except ε α} {a : α} (h : x.toOption = some a) :
    x = .ok a := by
  cases x with
  | error e => cases h
  | ok b => exact congrArg Except.ok (Option.some.inj h)

namespace Point

def entries (p : Point) : List (String × Option Json) :=
  [("lat_e6", some (.int p.lat.toInt)), ("lon_e6", some (.int p.lon.toInt))]

theorem keys_nodup (p : Point) : (p.entries.map Prod.fst).Nodup := by
  change ["lat_e6", "lon_e6"].Nodup
  decide

theorem ofJson_toJson (p : Point) : ofJson? p.toJson = some p := by
  have hjson : p.toJson = .obj (given p.entries) := rfl
  have hkeys := p.keys_nodup
  have hlat := required_given hkeys "lat_e6" (by simp [entries]) (Json.int32_write p.lat)
  have hlon := required_given hkeys "lon_e6" (by simp [entries]) (Json.int32_write p.lon)
  simp [ofJson?, hjson, Json.record_given hkeys, hlat, hlon]

theorem plain_toJson (p : Point) {depth : Nat} (h : depth < Json.deepest) :
    p.toJson.isPlain depth = true := by
  have hjson : p.toJson = .obj (given p.entries) := rfl
  rw [hjson]
  exact Json.plain_given h (.field (Json.plain_int32 p.lat) (.field (Json.plain_int32 p.lon) .nil))

end Point

namespace LocationType

theorem ofJson_toJson (blank : Blank) (t : LocationType) :
    ofJsonWith? blank t.toJson = some t := by
  cases t <;> rfl

end LocationType

namespace Location

variable {kind : LocationType} {id place name : Option String} {coordinate : Option Point}
  {l : Location}

theorem nonEmpty_nonEmpty (s : Option String) : nonEmpty (nonEmpty s) = nonEmpty s := by
  rw [nonEmpty, nonEmpty, Option.filter_filter]
  simp

/-- The fields fit the type, and no text is empty. -/
structure Fits (l : Location) : Prop where
  placed : l.kind = .coord → l.coordinate ≠ none
  identified : l.kind = .station → l.id ≠ none
  unresolved : l.kind = .any → l.id = none ∧ l.coordinate = none
  id : nonEmpty l.id = l.id
  place : nonEmpty l.place = l.place
  name : nonEmpty l.name = l.name

/-- What is built has the fields that were given, and fits its type. -/
theorem build_eq_ok (h : build kind id coordinate place name = .ok l) :
    l = ⟨kind, nonEmpty id, coordinate, nonEmpty place, nonEmpty name⟩ ∧ l.Fits := by
  have hid := nonEmpty_nonEmpty id
  have hplace := nonEmpty_nonEmpty place
  have hname := nonEmpty_nonEmpty name
  rw [build.eq_def] at h
  cases kind with
  | station =>
    dsimp only at h
    split at h
    · cases h
    · rename_i hidentified
      cases h
      exact ⟨rfl, nofun, fun _ => by simpa using hidentified, nofun, hid, hplace, hname⟩
  | coord =>
    dsimp only at h
    split at h
    · cases h
    · rename_i hplaced
      cases h
      exact ⟨rfl, fun _ => by simpa using hplaced, nofun, nofun, hid, hplace, hname⟩
  | any =>
    dsimp only at h
    split at h
    · cases h
    · rename_i hunresolved
      cases h
      exact ⟨rfl, nofun, nofun, fun _ => by simpa using hunresolved, hid, hplace, hname⟩
  | address | poi =>
    cases h
    exact ⟨rfl, nofun, nofun, nofun, hid, hplace, hname⟩

/-- A location that fits is built from its own fields. -/
theorem Fits.build (h : l.Fits) : build l.kind l.id l.coordinate l.place l.name = .ok l := by
  rcases l with ⟨kind, id, coordinate, place, name⟩
  obtain ⟨hplaced, hidentified, hunresolved, hid, hplace, hname⟩ := h
  dsimp only at hplaced hidentified hunresolved hid hplace hname
  rw [Location.build.eq_def]
  dsimp only
  rw [hid, hplace, hname]
  cases kind with
  | station => simpa using hidentified
  | coord => simpa using hplaced
  | any => simpa using hunresolved
  | address | poi => rfl

def entries (l : Location) : List (String × Option Json) :=
  [("location_type", some l.kind.toJson), ("id", l.id.map .str),
    ("coord", l.coordinate.map Point.toJson), ("place", l.place.map .str),
    ("name", l.name.map .str)]

theorem keys_nodup (l : Location) : (l.entries.map Prod.fst).Nodup := by
  change ["location_type", "id", "coord", "place", "name"].Nodup
  decide

theorem toJson_eq (l : Location) : l.toJson = .obj (given l.entries) := by
  simp only [toJson, entries, given, Json.given_optional, List.append_assoc, List.append_nil]

/-- Reading builds a location anew from its own fields. -/
theorem ofJson_eq_build (blank : Blank) (l : Location) : ofJsonWith? blank l.toJson =
    (Location.build l.kind l.id l.coordinate l.place l.name).toOption := by
  have hkeys := l.keys_nodup
  have hkind := required_given hkeys "location_type" (by simp [entries])
    (LocationType.ofJson_toJson blank l.kind)
  have hid := omissible_given hkeys "id" l.id (by simp [entries]) Json.string_write nofun
  have hcoordinate :=
    omissible_given hkeys "coord" l.coordinate (by simp [entries]) Point.ofJson_toJson nofun
  have hplace := omissible_given hkeys "place" l.place (by simp [entries]) Json.string_write nofun
  have hname := omissible_given hkeys "name" l.name (by simp [entries]) Json.string_write nofun
  simp [ofJsonWith?, toJson_eq, Json.record_given hkeys, hkind, hid, hcoordinate, hplace, hname]

/-- A location that fits is read back. -/
theorem ofJson_toJson (blank : Blank) (h : l.Fits) : ofJsonWith? blank l.toJson = some l := by
  rw [ofJson_eq_build, h.build, Except.toOption]

theorem plain_toJson (l : Location) {depth : Nat} (h : depth + 1 < Json.deepest) :
    l.toJson.isPlain depth = true := by
  rw [toJson_eq]
  refine Json.plain_given (by omega) (.field (Json.plain_str _) (.optional Json.plain_str ?_))
  exact .optional (fun p => p.plain_toJson h)
    (.optional Json.plain_str (.optional Json.plain_str .nil))

end Location

end Transit
