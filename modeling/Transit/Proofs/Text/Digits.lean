import Mathlib.Tactic.IntervalCases
import Transit.Text

/-! Decimal digits of a number, which stand for that number. -/
namespace Transit.Text

theorem isDigit_digitChar {d : Nat} (h : d < 10) : isDigit (digitChar d) = true := by
  interval_cases d <;> rfl

theorem digitValue_digitChar {d : Nat} (h : d < 10) : digitValue (digitChar d) = d := by
  interval_cases d <;> rfl

theorem isDigit_of_mem_digits {n : Nat} {c : Char} (h : c ∈ digits n) : isDigit c = true := by
  fun_induction digits n with
  | case1 n hn =>
    obtain rfl := List.mem_singleton.mp h
    exact isDigit_digitChar hn
  | case2 n hn ih =>
    rcases List.mem_append.mp h with h | h
    · exact ih h
    · obtain rfl := List.mem_singleton.mp h
      exact isDigit_digitChar (Nat.mod_lt n (by omega))

theorem isBlank_of_isDigit {c : Char} (h : isDigit c = true) : isBlank c = false := by
  simp only [isDigit, Bool.and_eq_true, decide_eq_true_eq, Char.le_def, UInt32.le_iff_toNat_le] at h
  have hlow : 48 ≤ c.toNat := h.1
  have hhigh : c.toNat ≤ 57 := h.2
  simp only [isBlank, Bool.or_eq_false_iff, Bool.and_eq_false_iff, decide_eq_false_iff_not,
    beq_eq_false_iff_ne]
  omega

theorem digits_ne_nil (n : Nat) : digits n ≠ [] := by
  rw [digits]
  split <;> simp

theorem decimalValue_digits (n : Nat) : decimalValue (digits n) = n := by
  fun_induction digits n with
  | case1 n hn => exact (Nat.zero_add _).trans (digitValue_digitChar hn)
  | case2 n hn ih =>
    rw [decimalValue, List.foldl_append, ← decimalValue, ih, List.foldl_cons, List.foldl_nil,
      digitValue_digitChar (Nat.mod_lt n (by omega))]
    omega

/-- Only zero itself begins with a zero. -/
theorem digits_zero_cons {n : Nat} {rest : List Char} (h : digits n = '0' :: rest) :
    rest = [] := by
  fun_induction digits n generalizing rest with
  | case1 n hn => exact (List.cons.inj h).2.symm
  | case2 n hn ih =>
    exfalso
    obtain ⟨c, cs, hcs⟩ := List.exists_cons_of_ne_nil (digits_ne_nil (n / 10))
    rw [hcs] at h
    obtain rfl := (List.cons.inj h).1
    have hzero : n / 10 = 0 := by
      rw [← decimalValue_digits (n / 10), hcs, ih hcs]
      rfl
    omega

end Transit.Text
