import Transit.Proofs.Location
import Transit.Proofs.Sameness

/-! # Locations that are built, and what is read of their text

Whatever is built, and however it is changed, has what its type asks for; but the shorter ways to
build, and the changes, take empty texts as they are. Reading takes an empty text for a missing one.
So a location is read back as it was exactly if none of its texts is empty, and a station with an
empty id is not read back at all.
-/
namespace Transit.Location

variable {l : Location}

/-- A location that was built, and whatever was put into it since. -/
inductive Built : Location → Prop
  | build {kind : LocationType} {id place name : Option String} {coordinate : Option Point}
    {l : Location} (h : Location.build kind id coordinate place name = .ok l) : Built l
  | station (id : String) : Built (.station id)
  | atPoint (p : Point) : Built (.atPoint p)
  | any (name : String) : Built (.any name)
  | withCoordinate {l : Location} (p : Point) (h : Built l) : Built (l.withCoordinate p)
  | withPlace {l : Location} (place : String) (h : Built l) : Built (l.withPlace place)
  | withName {l : Location} (name : String) (h : Built l) : Built (l.withName name)

/-- The fields are there that the type asks for. Only a station may have an empty id. -/
structure Typed (l : Location) : Prop where
  placed : l.kind = .coord → l.coordinate ≠ none
  identified : l.kind = .station → l.id ≠ none
  unresolved : l.kind = .any → l.id = none ∧ l.coordinate = none
  unnumbered : l.id = some "" → l.kind = .station

/-- None of the texts is empty. -/
structure HasNoEmptyText (l : Location) : Prop where
  id : l.id ≠ some ""
  place : l.place ≠ some ""
  name : l.name ≠ some ""

/-- The same location without its empty texts. -/
def tidy (l : Location) : Location :=
  ⟨l.kind, nonEmpty l.id, l.coordinate, nonEmpty l.place, nonEmpty l.name⟩

/-- What is read of the text that a location is written as. -/
def readBack (l : Location) : Option Location := (Json.ofText? l.toJson.compact).bind ofJson?

theorem nonEmpty_none : nonEmpty none = none := rfl

theorem nonEmpty_eq_self {s : Option String} : nonEmpty s = s ↔ s ≠ some "" := by
  cases s with
  | none => simp [nonEmpty]
  | some s => by_cases h : s = "" <;> simp [nonEmpty, h]

theorem nonEmpty_eq_none {s : Option String} : nonEmpty s = none ↔ s = none ∨ s = some "" := by
  cases s with
  | none => simp [nonEmpty]
  | some s => by_cases h : s = "" <;> simp [nonEmpty, h]

theorem tidy_eq_self : l.tidy = l ↔ l.HasNoEmptyText := by
  rcases l with ⟨kind, id, coordinate, place, name⟩
  simp only [tidy, mk.injEq, true_and, nonEmpty_eq_self]
  exact ⟨fun ⟨hid, hplace, hname⟩ => ⟨hid, hplace, hname⟩,
    fun h => ⟨h.id, h.place, h.name⟩⟩

/-- Locations are told apart by their ids, and without ids by their names. -/
theorem tidy_beq : (l.tidy == l) = true ↔ l.id ≠ some "" ∧ (l.id = none → l.name ≠ some "") := by
  rw [beq_iff]
  rcases l with ⟨kind, _ | id, coordinate, place, name⟩
  · simp [tidy, canonical, nonEmpty_eq_self, nonEmpty_none]
  · by_cases hid : id = ""
    · simp [tidy, canonical, nonEmpty_eq_none.mpr (.inr rfl), hid]
    · have hkept : nonEmpty (some id) = some id :=
        nonEmpty_eq_self.mpr fun h => hid (Option.some.inj h)
      simp [tidy, canonical, hkept, hid]

theorem Fits.typed (h : l.Fits) : l.Typed :=
  ⟨h.placed, h.identified, h.unresolved, fun hid => absurd hid (nonEmpty_eq_self.mp h.id)⟩

theorem Built.typed (h : l.Built) : l.Typed := by
  induction h with
  | build h => exact (build_eq_ok h).2.typed
  | station id => exact ⟨nofun, nofun, nofun, fun _ => rfl⟩
  | atPoint p => exact ⟨nofun, nofun, nofun, nofun⟩
  | any name => exact ⟨nofun, nofun, fun _ => ⟨rfl, rfl⟩, nofun⟩
  | @withCoordinate l p _ ih =>
    rw [Location.withCoordinate]
    split
    · exact ih
    · rename_i hkind
      exact ⟨nofun, ih.identified, fun hany => absurd hany hkind, ih.unnumbered⟩
  | withPlace place _ ih => exact ⟨ih.placed, ih.identified, ih.unresolved, ih.unnumbered⟩
  | withName name _ ih => exact ⟨ih.placed, ih.identified, ih.unresolved, ih.unnumbered⟩

/-- Place and name can be put into whatever was built without them. -/
theorem Built.described {kind : LocationType} {id : Option String} {coordinate : Option Point}
    (h : Built ⟨kind, id, coordinate, none, none⟩) (place name : Option String) :
    Built ⟨kind, id, coordinate, place, name⟩ := by
  have hplaced : Built ⟨kind, id, coordinate, place, none⟩ := by
    cases place with
    | none => exact h
    | some place => exact h.withPlace place
  cases name with
  | none => exact hplaced
  | some name => exact hplaced.withName name

/-- Without an empty id, the fields that matter to the type can be built as they are; with one, it
is a station that may be placed later. -/
theorem Typed.built (h : l.Typed) : l.Built := by
  rcases l with ⟨kind, id, coordinate, place, name⟩
  refine Built.described ?_ place name
  by_cases hid : id = some ""
  · obtain rfl := hid
    obtain rfl : kind = .station := h.unnumbered rfl
    cases coordinate with
    | none => exact .station ""
    | some p => exact (Built.station "").withCoordinate p
  · exact .build
      (Fits.build ⟨h.placed, h.identified, h.unresolved, nonEmpty_eq_self.mpr hid, rfl, rfl⟩)

theorem built_iff : l.Built ↔ l.Typed := ⟨Built.typed, Typed.built⟩

/-- Built anew, a location loses its empty texts, and a station without id cannot be built. -/
theorem Typed.rebuild (h : l.Typed) :
    build l.kind l.id l.coordinate l.place l.name =
      if l.id = some "" then .error (.invalidLocation "station without id") else .ok l.tidy := by
  rcases l with ⟨kind, id, coordinate, place, name⟩
  obtain ⟨hplaced, hidentified, hunresolved, hunnumbered⟩ := h
  dsimp only at hplaced hidentified hunresolved hunnumbered
  rw [build.eq_def]
  dsimp only [tidy]
  cases kind with
  | station => simp [nonEmpty_eq_none, hidentified]
  | coord =>
    have hid : id ≠ some "" := fun hid => absurd (hunnumbered hid) (by decide)
    simp [hid, hplaced]
  | any =>
    obtain ⟨rfl, rfl⟩ := hunresolved rfl
    rfl
  | address | poi =>
    have hid : id ≠ some "" := fun hid => absurd (hunnumbered hid) (by decide)
    simp [hid]

theorem Typed.readBack (h : l.Typed) :
    l.readBack = if l.id = some "" then none else some l.tidy := by
  rw [Location.readBack, Json.ofText_compact (l.plain_toJson (by decide)), Option.bind_some,
    ofJson?, ofJson_eq_build, h.rebuild]
  split <;> rfl

/-- What can be built is what has the fields that its type asks for. Its text is read as the same
location without empty texts, unless its id is one. So every field is read back exactly if no text
is empty, and the same location exactly if neither its id nor, without id, its name is empty. -/
theorem built_read_back (l : Location) :
    (l.Built ↔ l.Typed) ∧
      (l.Built →
        (l.readBack = if l.id = some "" then none else some l.tidy) ∧
        (l.readBack = some l ↔ l.HasNoEmptyText) ∧
        ((∃ m, l.readBack = some m ∧ (m == l) = true) ↔
          l.id ≠ some "" ∧ (l.id = none → l.name ≠ some ""))) := by
  refine ⟨built_iff, fun h => ?_⟩
  have hread := h.typed.readBack
  refine ⟨hread, ?_, ?_⟩
  · rw [hread, ← tidy_eq_self]
    split
    · rename_i hid
      have hempty : l.tidy ≠ l := fun htidy => (tidy_eq_self.mp htidy).id hid
      simp [hempty]
    · exact Option.some_inj
  · rw [hread, ← tidy_beq]
    split
    · rename_i hid
      have hempty : ¬(l.tidy == l) = true := fun htidy => (tidy_beq.mp htidy).1 hid
      simp [hempty]
    · simp

/-- A station with an empty place is read back as the same station, but without the place. -/
theorem station_read_back :
    let l := ((station "8000105").withName "Frankfurt(Main)Hbf").withPlace ""
    l.Built ∧ l.readBack = some ((station "8000105").withName "Frankfurt(Main)Hbf") ∧
      l.readBack ≠ some l := by
  intro l
  have hbuilt : l.Built := ((Built.station "8000105").withName "Frankfurt(Main)Hbf").withPlace ""
  obtain ⟨hread, hsame, -⟩ := (built_read_back l).2 hbuilt
  refine ⟨hbuilt, hread, ?_⟩
  rw [ne_eq, hsame]
  exact fun h => h.place rfl

/-- A station with an empty id is built but not read back, and a place with an empty name is read
back as another. -/
theorem empty_texts_not_read_back :
    (station "").Built ∧ (station "").readBack = none ∧
      (any "").Built ∧ ∃ m, (any "").readBack = some m ∧ (m == any "") = false := by
  refine ⟨.station "", (Built.station "").typed.readBack, .any "", (any "").tidy, ?_, rfl⟩
  exact (Built.any "").typed.readBack

end Transit.Location
