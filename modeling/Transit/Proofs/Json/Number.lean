import Mathlib.Data.List.TakeDrop
import Transit.Json.Writer
import Transit.Proofs.Text.Digits

/-! # Integers read back

An integer of 64 bits, with or without sign, is read back from its digits if no further part of a
number follows.
-/
namespace Transit.Json

namespace Numeral

/-- No number goes on here. -/
def ends : List Char → Bool
  | [] => true
  | c :: _ => !(Text.isDigit c || c == '.' || c == 'e' || c == 'E')

variable {rest : List Char}

theorem digits_append {ds : List Char} (hds : ∀ c ∈ ds, Text.isDigit c = true)
    (hrest : ends rest = true) : digits (ds ++ rest) = (ds, rest) := by
  rw [digits, List.span_eq_takeWhile_dropWhile, List.takeWhile_append_of_pos hds,
    List.dropWhile_append_of_pos hds]
  cases rest with
  | nil => simp
  | cons c rest =>
    simp only [ends, Bool.not_eq_true', Bool.or_eq_false_iff] at hrest
    simp [hrest.1.1.1]

theorem whole_digits (n : Nat) (hrest : ends rest = true) :
    whole? (Text.digits n ++ rest) = some (Text.digits n, rest) := by
  rw [whole?, digits_append (fun c hc => Text.isDigit_of_mem_digits hc) hrest]
  split
  · rename_i hnil
    exact absurd (Prod.mk.inj hnil).1 (Text.digits_ne_nil n)
  · rename_i hzero
    cases Text.digits_zero_cons (Prod.mk.inj hzero).1
  · rfl

theorem fraction_of_ends (hrest : ends rest = true) : fraction? rest = some ([], rest) := by
  rw [fraction?.eq_def]
  split
  · cases hrest
  · rfl

theorem exponent_of_ends (hrest : ends rest = true) : exponent? rest = some (none, rest) := by
  cases rest with
  | nil => rfl
  | cons c rest =>
    simp only [ends, Bool.not_eq_true', Bool.or_eq_false_iff] at hrest
    simp [exponent?, hrest.1.2, hrest.2]

theorem unsigned_digits (negative : Bool) (n : Nat) (hrest : ends rest = true) :
    unsigned? negative (Text.digits n ++ rest) =
      some (⟨negative, Text.digits n, [], none⟩, rest) := by
  rw [unsigned?, whole_digits n hrest]
  simp only [fraction_of_ends hrest, exponent_of_ends hrest]

theorem read_intChars (n : Int) (hrest : ends rest = true) :
    read? (intChars n ++ rest) =
      some (⟨decide (n < 0), Text.digits n.natAbs, [], none⟩, rest) := by
  by_cases h : n < 0
  · rw [intChars, if_pos h, List.cons_append, read?, unsigned_digits true _ hrest, decide_eq_true h]
  · rw [intChars, if_neg h, read?.eq_def, decide_eq_false h]
    split
    · rename_i hminus
      obtain ⟨c, cs, hcs⟩ := List.exists_cons_of_ne_nil (Text.digits_ne_nil n.natAbs)
      rw [hcs] at hminus
      obtain rfl : c = '-' := (List.cons.inj hminus).1
      have hdigit : Text.isDigit '-' = true :=
        Text.isDigit_of_mem_digits (n := n.natAbs) (hcs ▸ List.mem_cons_self)
      cases hdigit
    · exact unsigned_digits false _ hrest

theorem le_foldl_digits (m : Nat) (ds : List Char) :
    m ≤ ds.foldl (fun n c => n * 10 + Text.digitValue c) m := by
  induction ds generalizing m with
  | nil => exact Nat.le_refl m
  | cons c ds ih =>
    have hnext := ih (m * 10 + Text.digitValue c)
    rw [List.foldl_cons]
    omega

/-- Digits are taken as long as the number fits. -/
theorem accumulate_of_lt {m : Nat} (taken : Nat) {ds : List Char}
    (h : ds.foldl (fun n c => n * 10 + Text.digitValue c) m < twoTo 64) :
    accumulate m taken ds =
      (ds.foldl (fun n c => n * 10 + Text.digitValue c) m, taken + ds.length, 0) := by
  induction ds generalizing m taken with
  | nil => rfl
  | cons c ds ih =>
    have hnext := Nat.lt_of_le_of_lt (le_foldl_digits (m * 10 + Text.digitValue c) ds) h
    rw [accumulate]
    simp only [if_pos hnext]
    rw [ih (taken + 1) h, List.foldl_cons, List.length_cons]
    simp only [Nat.add_assoc, Nat.add_comm 1]

theorem accumulate_digits {n : Nat} (h : n < twoTo 64) :
    accumulate 0 0 (Text.digits n) = (n, 0 + (Text.digits n).length, 0) := by
  have hvalue := Text.decimalValue_digits n
  rw [Text.decimalValue] at hvalue
  rw [accumulate_of_lt 0 (by rwa [hvalue]), hvalue]

end Numeral

/-- The integers that a number without fraction and exponent is read as. -/
def fits (n : Int) : Bool := -twoTo 63 ≤ n && n < twoTo 64

theorem value_intChars {n : Int} (h : fits n = true) :
    Numeral.value ⟨decide (n < 0), Text.digits n.natAbs, [], none⟩ = .int n := by
  have hsmall : twoTo 63 < twoTo 64 := by decide
  simp only [fits, Bool.and_eq_true, decide_eq_true_eq] at h
  have hn : n.natAbs < twoTo 64 := by omega
  rw [Numeral.value]
  simp only [Numeral.accumulate_digits hn, Numeral.isIntegral, List.isEmpty_nil,
    Option.isNone_none, Bool.and_self, decide_true, if_true]
  by_cases hneg : n < 0
  · have hrange : ¬(n.natAbs = 0 ∨ twoTo 63 < n.natAbs) := by omega
    simp only [hneg, decide_true, Bool.not_true, Bool.false_eq_true, if_false, Bool.or_eq_true,
      decide_eq_true_eq, if_neg hrange]
    congr 1
    omega
  · simp only [hneg, decide_false, Bool.not_false, if_true]
    congr 1
    omega

end Transit.Json
