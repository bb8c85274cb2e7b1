import Mathlib.Data.Prod.Lex
import Mathlib.Order.WithBot
import Transit.Leg
import Transit.Proofs.StableSort

/-! # The order of stops along a leg

Stops are sorted by sequence number and then by index, and what is missing comes first. Stops with
the same ordinal keep their order, so stops that are told apart by nothing but a growing index stay
as they are.
-/
namespace Transit

namespace Stop

/-- A missing number is less than any other. -/
def rank : Option UInt32 → WithBot ℕ
  | none => ⊥
  | some n => WithBot.some n.toNat

/-- The sequence number, then the index. -/
def ordinal (s : Stop) : WithBot ℕ ×ₗ WithBot ℕ := toLex (rank s.sequence, rank s.index)

theorem rank_injective : Function.Injective rank := by
  intro a b h
  cases a with
  | none =>
    cases b with
    | none => rfl
    | some b => exact (WithBot.bot_ne_coe h).elim
  | some a =>
    cases b with
    | none => exact (WithBot.coe_ne_bot h).elim
    | some b => exact congrArg some (UInt32.toNat_inj.mp (WithBot.coe_injective h))

theorem optionLe_iff (a b : Option UInt32) : optionLe a b ↔ rank a ≤ rank b := by
  cases a with
  | none => exact iff_of_true rfl bot_le
  | some a =>
    cases b with
    | none => exact iff_of_false Bool.false_ne_true (WithBot.not_coe_le_bot a.toNat)
    | some b =>
      rw [optionLe, decide_eq_true_eq, UInt32.le_iff_toNat_le]
      exact WithBot.coe_le_coe.symm

theorem ordinalLe_iff (s t : Stop) : s.ordinalLe t ↔ s.ordinal ≤ t.ordinal := by
  rw [ordinal, ordinal, Prod.Lex.toLex_le_toLex, ordinalLe]
  by_cases hsequence : s.sequence = t.sequence
  · rw [if_pos hsequence, optionLe_iff, hsequence]
    simp
  · -- Different numbers are in order only if they are strictly so, and the index does not count.
    have hne := rank_injective.ne hsequence
    rw [if_neg hsequence, optionLe_iff, le_iff_lt_or_eq]
    simp [hne]

/-- Both stops have an index, and that of the first one is less. -/
def Precedes (s t : Stop) : Prop := ∃ i ∈ s.index, ∃ j ∈ t.index, i < j

theorem Precedes.ordinal_le {s t : Stop} (h : s.Precedes t) (hs : s.sequence = none)
    (ht : t.sequence = none) : s.ordinal ≤ t.ordinal := by
  obtain ⟨i, hi, j, hj, hlt⟩ := h
  rw [← ordinalLe_iff, ordinalLe, hs, ht, if_pos rfl, hi, hj, optionLe, decide_eq_true_eq]
  exact UInt32.le_of_lt hlt

end Stop

/-- Whatever stops are put in between the ends of a ride, they are sorted by their ordinals. -/
theorem PublicLeg.isStableSort_withIntermediateStops (l : PublicLeg) (stops : List Stop) :
    StableSort.IsStableSort Stop.ordinal stops
      (l.withIntermediateStops stops).intermediateStops := by
  have hle : Stop.ordinalLe = fun s t => decide (s.ordinal ≤ t.ordinal) := by
    funext s t
    rw [Bool.eq_iff_iff, decide_eq_true_eq, Stop.ordinalLe_iff]
  have hsort : (l.withIntermediateStops stops).intermediateStops =
      StableSort.sortBy Stop.ordinal stops := by
    rw [StableSort.sortBy, ← hle]
    rfl
  rw [hsort]
  exact StableSort.isStableSort_sortBy stops

end Transit
