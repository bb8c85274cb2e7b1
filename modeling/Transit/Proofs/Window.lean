import Mathlib.Order.Bounds.Basic
import Transit.Proofs.Instant
import Transit.Proofs.Distinct
import Transit.Proofs.Sameness
import Transit.Window

/-! # Windows span departures

A window is the least and the greatest first departure of some trips; there is none without trips.
It depends on nothing but the set of departures, and uniting windows unites these sets.
-/
namespace Transit

/-- The first departures of some trips. -/
def departures (trips : List Trip) : Set Instant := {x | ∃ t ∈ trips, t.firstDeparture = x}

@[simp] theorem departures_nil : departures [] = ∅ := by simp [departures]

theorem departures_cons (t : Trip) (trips : List Trip) :
    departures (t :: trips) = insert t.firstDeparture (departures trips) := by
  ext x
  simp [departures, eq_comm]

@[simp] theorem departures_append (a b : List Trip) :
    departures (a ++ b) = departures a ∪ departures b := by
  ext x
  simp [departures, or_and_right, exists_or]

theorem departures_eq_empty {trips : List Trip} : departures trips = ∅ ↔ trips = [] := by
  simp [departures, Set.eq_empty_iff_forall_notMem, List.eq_nil_iff_forall_not_mem]

theorem mem_departures {trips : List Trip} {t : Trip} (h : t ∈ trips) :
    t.firstDeparture ∈ departures trips := ⟨t, h, rfl⟩

theorem departures_perm {a b : List Trip} (h : a.Perm b) : departures a = departures b := by
  ext x
  simp [departures, h.mem_iff]

/-- A trip that equals a known one departs with it. -/
theorem departures_addNew (known page : List Trip) :
    departures (addNew known page) = departures (known ++ page) := by
  ext x
  constructor
  · rintro ⟨t, ht, rfl⟩
    exact mem_departures (List.mem_append.mpr (mem_addNew ht))
  · rintro ⟨t, ht, rfl⟩
    obtain ⟨u, hu, hsame⟩ := List.contains_iff_exists_mem_beq.mp
      (contains_addNew (List.mem_append.mp ht))
    exact ⟨u, hu, (Trip.firstDeparture_eq_of_beq hsame).symm⟩

namespace DepartureWindow

/-- The window reaches from the least to the greatest of some instants, if there are any. -/
def Spans : Option DepartureWindow → Set Instant → Prop
  | none, s => s = ∅
  | some w, s => IsLeast s w.earliest ∧ IsGreatest s w.latest

theorem Spans.unique {v w : Option DepartureWindow} {s : Set Instant} (hv : Spans v s)
    (hw : Spans w s) : v = w := by
  cases v with
  | none =>
    cases w with
    | none => rfl
    | some w =>
      have hmem : w.earliest ∈ s := hw.1.1
      rw [show s = ∅ from hv] at hmem
      exact absurd hmem (Set.notMem_empty _)
  | some v =>
    cases w with
    | none =>
      have hmem : v.earliest ∈ s := hv.1.1
      rw [show s = ∅ from hw] at hmem
      exact absurd hmem (Set.notMem_empty _)
    | some w =>
      have he : v.earliest = w.earliest := hv.1.unique hw.1
      have hl : v.latest = w.latest := hv.2.unique hw.2
      cases v
      cases w
      simp_all

theorem spans_extend {w : DepartureWindow} {s : Set Instant} (h : Spans (some w) s) (t : Instant) :
    Spans (some (w.extend t)) (s ∪ {t}) :=
  ⟨h.1.union isLeast_singleton, h.2.union isGreatest_singleton⟩

theorem spans_foldl {w : DepartureWindow} {s : Set Instant} (h : Spans (some w) s)
    (trips : List Trip) :
    Spans (some ((trips.map Trip.firstDeparture).foldl extend w)) (s ∪ departures trips) := by
  induction trips generalizing w s with
  | nil => simpa using h
  | cons t rest ih =>
    have hset : s ∪ departures (t :: rest) = s ∪ {t.firstDeparture} ∪ departures rest := by
      rw [Set.union_assoc]
      congr 1
      ext x
      simp [departures, eq_comm]
    rw [hset]
    exact ih (spans_extend h t.firstDeparture)

/-- The window of some trips spans their departures. -/
theorem spans_ofTrips (trips : List Trip) : Spans (ofTrips trips) (departures trips) := by
  cases trips with
  | nil => exact departures_nil
  | cons t rest =>
    have hset : departures (t :: rest) = {t.firstDeparture} ∪ departures rest := by
      ext x
      simp [departures, eq_comm]
    rw [hset]
    exact spans_foldl ⟨isLeast_singleton, isGreatest_singleton⟩ rest

theorem spans_unite {v w : Option DepartureWindow} {s t : Set Instant} (hv : Spans v s)
    (hw : Spans w t) : Spans (unite v w) (s ∪ t) := by
  cases v with
  | none =>
    rw [show s = ∅ from hv, Set.empty_union]
    exact hw
  | some v =>
    cases w with
    | none =>
      rw [show t = ∅ from hw, Set.union_empty]
      exact hv
    | some w => exact ⟨hv.1.union hw.1, hv.2.union hw.2⟩

theorem ofTrips_congr {a b : List Trip} (h : departures a = departures b) :
    ofTrips a = ofTrips b :=
  (spans_ofTrips a).unique (h ▸ spans_ofTrips b)

/-- The window of a page is united with that of the trips before it. -/
theorem unite_ofTrips (seen page : List Trip) :
    unite (ofTrips page) (ofTrips seen) = ofTrips (seen ++ page) := by
  apply (spans_unite (spans_ofTrips page) (spans_ofTrips seen)).unique
  rw [Set.union_comm, ← departures_append]
  exact spans_ofTrips (seen ++ page)

end DepartureWindow

/-- Moving in the direction, `t` departs strictly beyond `u`. -/
def Direction.Beyond : Direction → Trip → Trip → Prop
  | .later, t, u => u.firstDeparture < t.firstDeparture
  | .earlier, t, u => t.firstDeparture < u.firstDeparture

instance (d : Direction) (t u : Trip) : Decidable (d.Beyond t u) :=
  match d with
  | .later => inferInstanceAs (Decidable (u.firstDeparture < t.firstDeparture))
  | .earlier => inferInstanceAs (Decidable (t.firstDeparture < u.firstDeparture))

theorem isBefore_iff {w : DepartureWindow} {trips : List Trip}
    (h : DepartureWindow.Spans (some w) (departures trips)) (d : Direction) (t : Trip) :
    w.isBefore d t = true ↔ ∀ u ∈ trips, d.Beyond t u := by
  cases d with
  | later =>
    obtain ⟨last, hlast, hlatest⟩ := h.2.1
    simp only [DepartureWindow.isBefore, decide_eq_true_eq, Direction.Beyond]
    constructor
    · intro ht u hu
      exact lt_of_le_of_lt (h.2.2 (mem_departures hu)) ht
    · intro ht
      rw [← hlatest]
      exact ht last hlast
  | earlier =>
    obtain ⟨first, hfirst, hearliest⟩ := h.1.1
    simp only [DepartureWindow.isBefore, decide_eq_true_eq, Direction.Beyond]
    constructor
    · intro ht u hu
      exact lt_of_lt_of_le ht (h.1.2 (mem_departures hu))
    · intro ht
      rw [← hearliest]
      exact ht first hfirst

/-- Against the window of the trips seen, a page keeps what departs beyond all of them. -/
theorem beyond_ofTrips (seen : List Trip) (d : Direction) (page : List Trip) :
    beyond (DepartureWindow.ofTrips seen) d page =
      page.filter fun t => ∀ u ∈ seen, d.Beyond t u := by
  have hspans := DepartureWindow.spans_ofTrips seen
  cases hw : DepartureWindow.ofTrips seen with
  | none =>
    rw [hw] at hspans
    obtain rfl : seen = [] := departures_eq_empty.mp hspans
    exact (List.filter_eq_self.mpr (by simp)).symm
  | some w =>
    rw [hw] at hspans
    apply List.filter_congr
    intro t _
    rw [Bool.eq_iff_iff, decide_eq_true_eq]
    exact isBefore_iff hspans d t

end Transit
