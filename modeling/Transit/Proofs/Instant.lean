import Mathlib.Order.Defs.LinearOrder
import Transit.Instant

/-! Instants are linearly ordered: by second, and by nanosecond within a second. -/
namespace Transit.Instant

theorem le_iff {a b : Instant} :
    a ≤ b ↔ a.second < b.second ∨ (a.second = b.second ∧ a.nano ≤ b.nano) := Iff.rfl

theorem lt_iff {a b : Instant} :
    a < b ↔ a.second < b.second ∨ (a.second = b.second ∧ a.nano < b.nano) := Iff.rfl

theorem eq_of_parts {a b : Instant} (hs : a.second = b.second) (hn : a.nano = b.nano) : a = b := by
  cases a
  cases b
  simp_all

/-- Minimum and maximum are the ones that windows are computed with. -/
instance : LinearOrder Instant where
  le_refl a := by rw [le_iff]; omega
  le_trans a b c hab hbc := by rw [le_iff] at *; omega
  le_antisymm a b hab hba := by
    rw [le_iff] at hab hba
    exact eq_of_parts (by omega) (by omega)
  le_total a b := by rw [le_iff, le_iff]; omega
  lt_iff_le_not_ge a b := by rw [lt_iff, le_iff, le_iff]; omega
  toDecidableLE := inferInstance
  toDecidableEq := inferInstance
  toDecidableLT := inferInstance
  min_def _ _ := rfl
  max_def _ _ := rfl

end Transit.Instant
