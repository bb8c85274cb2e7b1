import Mathlib.Order.Bounds.Basic
import Transit.Proofs.Trip

/-! # What legs come to

Legs come to one of four things: nothing, if there are none; a leg without its times; a gap between
two legs; a trip. A failure names the first place where it occurs, and one that is looked for later
is reported only where the earlier ones do not occur.
-/
namespace Transit.Trip

variable {id : Option String} {legs : List Leg} {t : Trip} {i start : Nat} {P : Nat → Prop}

/-- The first index at which `P` holds, when they are counted from `start`. -/
def FirstFrom (start : Nat) (P : Nat → Prop) (i : Nat) : Prop :=
  ∃ j, IsLeast {j | P j} j ∧ i = start + j

theorem firstFrom_zero : FirstFrom 0 P i ↔ IsLeast {j | P j} i := by
  simp [FirstFrom]

theorem firstFrom_here (h : P 0) : FirstFrom start P i ↔ i = start := by
  have hzero : IsLeast {j | P j} 0 := ⟨h, fun j _ => Nat.zero_le j⟩
  constructor
  · rintro ⟨j, hj, rfl⟩
    rw [hj.unique hzero, Nat.add_zero]
  · rintro rfl
    exact ⟨0, hzero, rfl⟩

theorem isLeast_succ {j : Nat} (h : ¬P 0) :
    IsLeast {j | P (j + 1)} j ↔ IsLeast {j | P j} (j + 1) := by
  constructor
  · rintro ⟨hj, hleast⟩
    refine ⟨hj, fun k hk => ?_⟩
    cases k with
    | zero => exact absurd hk h
    | succ k => exact Nat.succ_le_succ (hleast hk)
  · rintro ⟨hj, hleast⟩
    exact ⟨hj, fun k hk => Nat.succ_le_succ_iff.mp (hleast hk)⟩

theorem firstFrom_next (h : ¬P 0) :
    FirstFrom start P i ↔ FirstFrom (start + 1) (fun j => P (j + 1)) i := by
  constructor
  · rintro ⟨j, hj, rfl⟩
    cases j with
    | zero => exact absurd hj.1 h
    | succ j => exact ⟨j, (isLeast_succ h).mpr hj, by omega⟩
  · rintro ⟨j, hj, rfl⟩
    exact ⟨j + 1, (isLeast_succ h).mp hj, by omega⟩

/-- The leg at an index lacks one of its times. -/
def UntimedAt (legs : List Leg) (i : Nat) : Prop :=
  ∃ l, legs[i]? = some l ∧ ¬(l.departureTime.isSome ∧ l.arrivalTime.isSome)

/-- The leg at an index ends elsewhere than the one behind it starts. -/
def GapAt (legs : List Leg) (i : Nat) : Prop :=
  ∃ a b, legs[i]? = some a ∧ legs[i + 1]? = some b ∧ (a.arrival == b.departure) = false

@[simp] theorem untimedAt_nil : ¬UntimedAt [] i := by simp [UntimedAt]

@[simp] theorem untimedAt_zero {l : Leg} :
    UntimedAt (l :: legs) 0 ↔ ¬(l.departureTime.isSome ∧ l.arrivalTime.isSome) := by
  simp only [UntimedAt, List.getElem?_cons_zero, Option.some.injEq, exists_eq_left']

@[simp] theorem untimedAt_succ {l : Leg} : UntimedAt (l :: legs) (i + 1) ↔ UntimedAt legs i := by
  simp only [UntimedAt, List.getElem?_cons_succ]

@[simp] theorem gapAt_nil : ¬GapAt [] i := by simp [GapAt]

@[simp] theorem gapAt_singleton {l : Leg} : ¬GapAt [l] i := by simp [GapAt]

@[simp] theorem gapAt_zero {a b : Leg} :
    GapAt (a :: b :: legs) 0 ↔ (a.arrival == b.departure) = false := by
  simp [GapAt]

@[simp] theorem gapAt_succ {l : Leg} : GapAt (l :: legs) (i + 1) ↔ GapAt legs i := by
  simp only [GapAt, List.getElem?_cons_succ]

/-- The scan for times gives the first leg that lacks one. -/
theorem untimed?_eq_some : untimed? start legs = some i ↔ FirstFrom start (UntimedAt legs) i := by
  induction legs generalizing start with
  | nil => simp [untimed?, FirstFrom, IsLeast]
  | cons l legs ih =>
    rw [untimed?]
    by_cases hl : l.departureTime.isSome ∧ l.arrivalTime.isSome
    · have hnext : FirstFrom start (UntimedAt (l :: legs)) i ↔ _ :=
        firstFrom_next (by simp only [untimedAt_zero, not_not, hl, and_self])
      rw [if_neg (by simpa [Option.isSome_iff_ne_none] using hl), ih, hnext]
      simp only [untimedAt_succ]
    · have hhere : FirstFrom start (UntimedAt (l :: legs)) i ↔ i = start :=
        firstFrom_here (untimedAt_zero.mpr hl)
      rw [if_pos (by simpa [Option.isSome_iff_ne_none, or_iff_not_imp_left] using hl), hhere]
      simp [eq_comm]

/-- The scan for gaps gives the first leg that starts elsewhere than the one before it ends. -/
theorem gap?_eq_some : gap? start legs = some i ↔ FirstFrom (start + 1) (GapAt legs) i := by
  fun_induction gap? start legs with
  | case1 start a b rest hjoined ih =>
    have hnext : FirstFrom (start + 1) (GapAt (a :: b :: rest)) i ↔ _ :=
      firstFrom_next (by simp [hjoined])
    rw [ih, hnext]
    simp only [gapAt_succ]
  | case2 start a b rest hgap =>
    have hhere : FirstFrom (start + 1) (GapAt (a :: b :: rest)) i ↔ i = start + 1 :=
      firstFrom_here (by simpa using hgap)
    rw [hhere]
    simp [eq_comm]
  | case3 legs start hshort =>
    rcases legs with _ | ⟨l, _ | ⟨next, rest⟩⟩
    · simp [FirstFrom, IsLeast]
    · simp [FirstFrom, IsLeast]
    · exact (hshort l next rest rfl).elim

/-- The id of a trip over some legs: the given one, unless it is missing or empty. -/
inductive Named (legs : List Leg) : Option String → String → Prop
  | given {s : String} (said : s ≠ "") : Named legs (some s) s
  | missing : Named legs none (deriveId legs)
  | empty : Named legs (some "") (deriveId legs)

theorem nonEmpty_some {s : String} (h : s ≠ "") : Location.nonEmpty (some s) = some s := by
  simp [Location.nonEmpty, h]

theorem named_iff {name : String} :
    Named legs id name ↔ name = (Location.nonEmpty id).getD (deriveId legs) := by
  constructor
  · rintro (said | _ | _)
    · rw [nonEmpty_some said, Option.getD_some]
    · rfl
    · rfl
  · rintro rfl
    cases id with
    | none => exact .missing
    | some s =>
      by_cases hs : s = ""
      · subst hs
        exact .empty
      · rw [nonEmpty_some hs, Option.getD_some]
        exact .given hs

theorem named_of_build (h : build id legs = .ok t) : Named legs id t.id := by
  obtain ⟨rfl, hwell⟩ := build_eq_ok h
  rw [build_of_joined hwell.timed hwell.connected t.departs t.arrives] at h
  exact named_iff.mpr (congrArg Trip.id (Except.ok.inj h)).symm

/-- What some legs come to under an id that may be missing. -/
inductive ComesTo (id : Option String) (legs : List Leg) : Except EntityError Trip → Prop
  | empty (none : legs = []) : ComesTo id legs (.error .emptyTrip)
  | untimed {i : Nat} (first : IsLeast {i | UntimedAt legs i} i) :
    ComesTo id legs (.error (.missingTime ("leg " ++ toString i)))
  | apart {i : Nat} (timed : ∀ l ∈ legs, l.departureTime.isSome ∧ l.arrivalTime.isSome)
    (first : IsLeast {i | GapAt legs i} i) : ComesTo id legs (.error (.disconnectedLegs (i + 1)))
  | trip {t : Trip} (timed : ∀ l ∈ legs, l.departureTime.isSome ∧ l.arrivalTime.isSome)
    (connected : Connected legs) (same : t.legs = legs)
    (departs : legs.head?.bind Leg.departureTime = some t.firstDeparture)
    (arrives : legs.getLast?.bind Leg.arrivalTime = some t.lastArrival)
    (named : Named legs id t.id) (derivable : deriveId legs ≠ "") : ComesTo id legs (.ok t)

theorem ComesTo.build_eq {r : Except EntityError Trip} (h : ComesTo id legs r) :
    build id legs = r := by
  cases h with
  | empty none =>
    subst none
    rfl
  | @untimed i first =>
    have htravelled : legs ≠ [] := by
      rintro rfl
      obtain ⟨l, hl, -⟩ := first.1
      cases hl
    have hscan : untimed? 0 legs = some i := untimed?_eq_some.mpr (firstFrom_zero.mpr first)
    rw [build, if_neg (by simpa using htravelled)]
    simp only [hscan]
  | @apart i timed first =>
    have htravelled : legs ≠ [] := by
      rintro rfl
      obtain ⟨a, b, ha, -⟩ := first.1
      cases ha
    have hscan : gap? 0 legs = some (i + 1) :=
      gap?_eq_some.mpr ⟨i, first, (Nat.add_comm 1 i).symm.trans (by omega)⟩
    rw [build, if_neg (by simpa using htravelled)]
    simp only [untimed?_eq_none.mpr timed, hscan]
  | @trip t timed connected same departs arrives named derivable =>
    rw [build_of_joined timed connected departs arrives]
    obtain ⟨name, legs', first, last, hfirst, hlast⟩ := t
    obtain rfl : legs' = legs := same
    obtain rfl := named_iff.mp named
    rfl

/-- Legs always come to something. -/
theorem exists_comesTo (id : Option String) (legs : List Leg) : ∃ r, ComesTo id legs r := by
  by_cases htravelled : legs = []
  · exact ⟨_, .empty htravelled⟩
  cases huntimed : untimed? 0 legs with
  | some i => exact ⟨_, .untimed (firstFrom_zero.mp (untimed?_eq_some.mp huntimed))⟩
  | none =>
    have htimed := untimed?_eq_none.mp huntimed
    cases hgap : gap? 0 legs with
    | some i =>
      obtain ⟨j, hfirst, -⟩ := gap?_eq_some.mp hgap
      exact ⟨_, .apart htimed hfirst⟩
    | none =>
      have hconnected := gap?_eq_none.mp hgap
      obtain ⟨t, hbuild⟩ : ∃ t, build id legs = .ok t :=
        exists_build_iff.mpr ⟨htravelled, htimed, hconnected⟩
      have hnamed := named_of_build hbuild
      obtain ⟨rfl, -⟩ := build_eq_ok hbuild
      exact ⟨_, .trip htimed hconnected rfl t.departs t.arrives hnamed
        (deriveId_ne_empty htravelled)⟩

/-- Where a time is missing, it is that of a leg. -/
theorem ComesTo.leg_untimed {what : String} (h : ComesTo id legs (.error (.missingTime what))) :
    ∃ i : Nat, what = "leg " ++ toString i := by
  cases h with
  | untimed first => exact ⟨_, rfl⟩

/-- A trip is built of legs exactly as they allow it: there are some, each has its times, and each
starts where the one before it ends. Otherwise the failure is the first one that applies, with the
first place where it does; the times of the trip itself are never missing. -/
theorem build_eq_iff (id : Option String) (legs : List Leg) :
    (∀ r, build id legs = r ↔ ComesTo id legs r) ∧
      build id legs ≠ .error (.missingTime "first departure") ∧
      build id legs ≠ .error (.missingTime "last arrival") := by
  have hcomes : ComesTo id legs (build id legs) := by
    obtain ⟨r, hr⟩ := exists_comesTo id legs
    rwa [hr.build_eq]
  refine ⟨fun r => ⟨fun h => h ▸ hcomes, ComesTo.build_eq⟩, ?_, ?_⟩
  · intro hbuild
    obtain ⟨i, hi⟩ := (hbuild ▸ hcomes).leg_untimed
    have hletters := congrArg String.toList hi
    simp at hletters
  · intro hbuild
    obtain ⟨i, hi⟩ := (hbuild ▸ hcomes).leg_untimed
    have hletters := congrArg String.toList hi
    simp at hletters

/-- The second walk starts where the first one does. -/
example (t : Instant) :
    let walk := Leg.individual (.between .walk (.station "1") t (.station "2") t)
    build none [walk, walk] = .error (.disconnectedLegs 1) := by rfl

end Transit.Trip
