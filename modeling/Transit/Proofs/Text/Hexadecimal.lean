import Mathlib.Data.List.Forall2
import Mathlib.Data.Nat.Digits.Defs
import Transit.Proofs.Text.Search

/-! # Hexadecimal digits

Digits of either case, and the numbers that they spell with the highest digit first.
-/
namespace Transit.Text

variable {c : Char} {d m n : Nat} {cs : List Char}

/-- A hexadecimal digit of either case, and its value. -/
def IsHexDigit (c : Char) (d : Nat) : Prop := d < 16 ∧ c.toLower = Nat.digitChar d

instance : Decidable (IsHexDigit c d) := inferInstanceAs (Decidable (_ ∧ _))

private theorem of_range {P : Char → Prop} {first last : Char}
    (hall : ∀ n ≤ last.toNat - first.toNat, P (Char.ofNat (first.toNat + n)))
    (h : (decide (first ≤ c) && decide (c ≤ last)) = true) : P c := by
  simp only [Bool.and_eq_true, decide_eq_true_eq, Char.le_def, UInt32.le_iff_toNat_le] at h
  change first.toNat ≤ c.toNat ∧ c.toNat ≤ last.toNat at h
  have hc := hall (c.toNat - first.toNat) (by omega)
  rwa [Nat.add_sub_cancel' h.1, Char.ofNat_toNat] at hc

private def HasValue (c : Char) : Prop := IsHexDigit c ((hexValue? c).getD 0)

private instance (c : Char) : Decidable (HasValue c) := inferInstanceAs (Decidable (IsHexDigit _ _))

/-- What a character stands for that lies in one of the three ranges of digits. -/
private theorem hasValue (h : (hexValue? c).isSome) : HasValue c := by
  have hvalue := hexValue?.eq_1 c
  split_ifs at hvalue with hdigit hsmall hcapital
  · exact of_range (by decide) hdigit
  · exact of_range (by decide) hsmall
  · exact of_range (by decide) hcapital
  · simp [hvalue] at h

theorem hexValue?_eq_some_iff : hexValue? c = some d ↔ IsHexDigit c d := by
  constructor
  · intro h
    simpa [HasValue, h] using hasValue (c := c) (by simp [h])
  · rintro ⟨hd, hc⟩
    by_cases hcapital : 65 ≤ c.toNat ∧ c.toNat ≤ 90
    · have hall : ∀ n < 26, ∀ d < 16, (Char.ofNat (65 + n)).toLower = Nat.digitChar d →
          hexValue? (Char.ofNat (65 + n)) = some d := by decide
      obtain ⟨n, hn, rfl⟩ := exists_capital hcapital
      exact hall n hn d hd hc
    · have hall : ∀ d < 16, hexValue? (Nat.digitChar d) = some d := by decide
      rw [toLower_of_not_capital hcapital] at hc
      rw [hc, hall d hd]

theorem IsHexDigit.isBlank (h : IsHexDigit c d) : isBlank c = false := by
  have hall : ∀ d < 16, Text.isBlank (Nat.digitChar d) = false := by decide
  rw [← caseless_isBlank, h.2, hall d h.1]

/-- Hexadecimal digits, the highest one first, and the number that they stand for. -/
def Numeral (cs : List Char) (n : Nat) : Prop :=
  ∃ ds : List Nat, List.Forall₂ IsHexDigit cs ds ∧ n = Nat.ofDigits 16 ds.reverse

theorem Numeral.exists_digit (h : Numeral cs n) : ∀ c ∈ cs, ∃ d, IsHexDigit c d := by
  obtain ⟨ds, hdigits, -⟩ := h
  induction hdigits with
  | nil => simp
  | cons hdigit _ ih => exact List.forall_mem_cons.mpr ⟨⟨_, hdigit⟩, ih⟩

theorem Numeral.not_mem (h : Numeral cs n) (hc : hexValue? c = none) : c ∉ cs := by
  intro hmem
  obtain ⟨d, hdigit⟩ := h.exists_digit c hmem
  simp [hexValue?_eq_some_iff.mpr hdigit] at hc

theorem lt_of_mem_digits {ds : List Nat} (h : List.Forall₂ IsHexDigit cs ds) : ∀ d ∈ ds, d < 16 := by
  induction h with
  | nil => simp
  | cons hdigit hrest ih => exact List.forall_mem_cons.mpr ⟨hdigit.1, ih⟩

theorem Numeral.lt (h : Numeral cs n) : n < 16 ^ cs.length := by
  obtain ⟨ds, hds, rfl⟩ := h
  rw [hds.length_eq, ← List.length_reverse]
  apply Nat.ofDigits_lt_base_pow_length (by omega)
  simpa using lt_of_mem_digits hds

theorem ofDigits_reverse (ds : List Nat) :
    Nat.ofDigits 16 ds.reverse = ds.foldl (fun n d => n * 16 + d) 0 := by
  rw [Nat.ofDigits_eq_foldr, List.foldr_reverse]
  congr 1
  funext n d
  simp [Nat.add_comm, Nat.mul_comm]

end Transit.Text
