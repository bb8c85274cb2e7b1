import Transit.Proofs.Leg
import Transit.Trip

/-! # Trips that are built and read

Every trip that is built is well formed, and is built again from its own id and legs. Reading a trip
builds it, so whatever is read is well formed; and a trip of legs that are read back is read back.
-/
namespace Transit.Trip

open Json (given)
open Json.Record (required_given)

variable {id : Option String} {legs : List Leg} {t : Trip} {index : Nat}

/-- Each leg begins where the one before it ends. -/
def Connected (legs : List Leg) : Prop := legs.IsChain fun a b => a.arrival == b.departure

/-- There are legs, with both times each, one joined to the other, and there is an id. -/
structure WellFormed (t : Trip) : Prop where
  travelled : t.legs ≠ []
  timed : ∀ l ∈ t.legs, l.departureTime.isSome ∧ l.arrivalTime.isSome
  connected : Connected t.legs
  named : t.id ≠ ""

theorem untimed?_eq_none :
    untimed? index legs = none ↔ ∀ l ∈ legs, l.departureTime.isSome ∧ l.arrivalTime.isSome := by
  induction legs generalizing index with
  | nil => simp [untimed?]
  | cons l legs ih =>
    rw [untimed?, List.forall_mem_cons]
    by_cases htimed : l.departureTime.isSome ∧ l.arrivalTime.isSome
    · rw [if_neg (by simpa [Option.isSome_iff_ne_none] using htimed), ih]
      exact ⟨fun hrest => ⟨htimed, hrest⟩, fun h => h.2⟩
    · rw [if_pos (by simpa [Option.isSome_iff_ne_none, or_iff_not_imp_left] using htimed)]
      exact ⟨nofun, fun h => absurd h.1 htimed⟩

theorem gap?_eq_none : gap? index legs = none ↔ Connected legs := by
  rw [Connected]
  fun_induction gap? index legs with
  | case1 index a b rest hjoined ih => rw [ih, List.isChain_cons_cons]; simp [hjoined]
  | case2 index a b rest hgap => rw [List.isChain_cons_cons]; simp [hgap]
  | case3 legs index hshort =>
    match legs with
    | [] => simp
    | [l] => simp
    | a :: b :: rest => exact (hshort a b rest rfl).elim

theorem legId_ne_empty (l : Leg) : legId l ≠ "" := by
  simp [legId]

theorem deriveId_ne_empty (h : legs ≠ []) : deriveId legs ≠ "" := by
  match legs with
  | [l] =>
    rw [deriveId, List.map_singleton, String.intercalate_singleton]
    exact legId_ne_empty l
  | a :: b :: rest =>
    rw [deriveId, List.map_cons, List.map_cons, String.intercalate_cons_cons]
    simp

theorem ne_empty_of_nonEmpty {s : String} (h : Location.nonEmpty id = some s) : s ≠ "" := by
  obtain ⟨-, hs⟩ := Option.filter_eq_some_iff.mp h
  rintro rfl
  cases hs

/-- What is built is well formed. -/
theorem build_eq_ok (h : build id legs = .ok t) : t.legs = legs ∧ t.WellFormed := by
  rw [build] at h
  split at h
  · cases h
  · rename_i htravelled
    have htravelled : legs ≠ [] := fun hempty => htravelled (List.isEmpty_iff.mpr hempty)
    split at h
    · cases h
    · rename_i htimed
      split at h
      · cases h
      · rename_i hconnected
        split at h
        · cases h
          refine ⟨rfl, htravelled, untimed?_eq_none.mp htimed, gap?_eq_none.mp hconnected, ?_⟩
          cases hid : Location.nonEmpty id with
          | none => exact deriveId_ne_empty htravelled
          | some s => exact ne_empty_of_nonEmpty hid
        · cases h
        · cases h

theorem build_of_joined {first last : Instant}
    (htimed : ∀ l ∈ legs, l.departureTime.isSome ∧ l.arrivalTime.isSome)
    (hconnected : Connected legs) (hdeparts : legs.head?.bind Leg.departureTime = some first)
    (harrives : legs.getLast?.bind Leg.arrivalTime = some last) :
    build id legs = .ok
      ⟨(Location.nonEmpty id).getD (deriveId legs), legs, first, last, hdeparts, harrives⟩ := by
  have htravelled : legs ≠ [] := by
    rintro rfl
    cases hdeparts
  rw [build, if_neg (by simpa using htravelled)]
  simp only [untimed?_eq_none.mpr htimed, gap?_eq_none.mpr hconnected]
  split
  · rename_i first' last' hdeparts' harrives'
    obtain rfl := Option.some.inj (hdeparts.symm.trans hdeparts')
    obtain rfl := Option.some.inj (harrives.symm.trans harrives')
    rfl
  · rename_i hnone
    rw [hdeparts] at hnone
    cases hnone
  · rename_i hnone
    rw [harrives] at hnone
    cases hnone

/-- A trip can be built of legs that have their times and are joined to one another. -/
theorem exists_build_iff : (∃ t, build id legs = .ok t) ↔
    legs ≠ [] ∧ (∀ l ∈ legs, l.departureTime.isSome ∧ l.arrivalTime.isSome) ∧ Connected legs := by
  constructor
  · rintro ⟨t, hbuild⟩
    obtain ⟨rfl, hwell⟩ := build_eq_ok hbuild
    exact ⟨hwell.travelled, hwell.timed, hwell.connected⟩
  · rintro ⟨htravelled, htimed, hconnected⟩
    obtain ⟨first, hfirst⟩ := Option.isSome_iff_exists.mp (htimed _ (List.head_mem htravelled)).1
    obtain ⟨last, hlast⟩ := Option.isSome_iff_exists.mp (htimed _ (List.getLast_mem htravelled)).2
    have hdeparts : legs.head?.bind Leg.departureTime = some first := by
      rw [List.head?_eq_some_head htravelled, Option.bind_some, hfirst]
    have harrives : legs.getLast?.bind Leg.arrivalTime = some last := by
      rw [List.getLast?_eq_some_getLast htravelled, Option.bind_some, hlast]
    exact ⟨_, build_of_joined htimed hconnected hdeparts harrives⟩

/-- What is well formed is built again from its own id and legs. -/
theorem WellFormed.build (h : t.WellFormed) : build (some t.id) t.legs = .ok t := by
  have hid : Location.nonEmpty (some t.id) = some t.id := by simp [Location.nonEmpty, h.named]
  rw [build_of_joined h.timed h.connected t.departs t.arrives, hid]
  rfl

def entries (t : Trip) : List (String × Option Json) :=
  [("id", some (.str t.id)), ("legs", some (Json.list Leg.toJson t.legs))]

theorem keys_nodup (t : Trip) : (t.entries.map Prod.fst).Nodup := by
  change ["id", "legs"].Nodup
  decide

theorem plain_toJson (t : Trip) {depth : Nat} (h : depth + 6 < Json.deepest) :
    t.toJson.isPlain depth = true := by
  have hlegs : (Json.list Leg.toJson t.legs).isPlain (depth + 1) = true :=
    Json.plain_list (by omega) (fun l => l.plain_toJson h) t.legs
  have hjson : t.toJson = .obj (given t.entries) := rfl
  rw [hjson]
  exact Json.plain_given (by omega) (.field (Json.plain_str _) (.field hlegs .nil))

theorem ofJson_toJson (h : t.WellFormed) (hfits : ∀ l ∈ t.legs, l.Fits) :
    ofJson? t.toJson = some t := by
  have hjson : t.toJson = .obj (given t.entries) := rfl
  have hkeys := t.keys_nodup
  have hid := required_given hkeys "id" (by simp [entries]) (Json.string_write t.id)
  have hlegs := required_given hkeys "legs" (by simp [entries])
    (Json.list_write_of_mem fun l hl => Leg.ofJson_toJson (hfits l hl))
  simp [ofJson?, hjson, Json.record_given hkeys, hid, hlegs, h.build, Except.toOption]

/-- A trip of legs that are read back is read back from its text. -/
theorem ofText_compact (h : t.WellFormed) (hfits : ∀ l ∈ t.legs, l.Fits) :
    (Json.ofText? t.toJson.compact).bind ofJson? = some t := by
  rw [Json.ofText_compact (t.plain_toJson (by decide)), Option.bind_some, ofJson_toJson h hfits]

/-- Whatever is read is well formed. -/
theorem wellFormed_of_ofJson? {j : Json} (h : ofJson? j = some t) : t.WellFormed := by
  obtain ⟨r, -, h⟩ := Option.bind_eq_some_iff.mp h
  obtain ⟨id, -, h⟩ := Option.bind_eq_some_iff.mp h
  obtain ⟨legs, -, h⟩ := Option.bind_eq_some_iff.mp h
  exact (build_eq_ok (eq_ok_of_toOption h)).2

end Transit.Trip
