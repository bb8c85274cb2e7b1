import Mathlib.Algebra.Order.Field.Rat
import Mathlib.Algebra.Order.Field.Power
import Mathlib.Tactic.Linarith
import Mathlib.Tactic.Positivity
import Transit.Binary64

/-! # Bounds that survive rounding

A whole number of less than 53 bits is one of the numbers that results are rounded to, so rounding
moves nothing across it. Products and integers made of bounded numbers are bounded accordingly.
-/
namespace Transit.Binary64

variable {negative : Bool} {num den bound m : Nat} {e : Int} {x y : Binary64}

theorem cast_twoTo (n : Nat) : (twoTo n : ℚ) = 2 ^ n := by
  rw [twoTo, Nat.pow_eq]
  push_cast
  rfl

/-- Within a bound is what is of at most its magnitude. -/
theorem within_finite : (finite negative m e).within bound = true ↔ (m : ℚ) * 2 ^ e ≤ bound := by
  rw [within]
  split
  · rename_i hpos
    obtain ⟨k, rfl⟩ := Int.eq_ofNat_of_zero_le hpos
    rw [decide_eq_true_eq, Int.toNat_natCast, zpow_natCast, ← cast_twoTo]
    exact_mod_cast Iff.rfl
  · rename_i hneg
    obtain ⟨k, rfl⟩ : ∃ k : Nat, e = -(k : Int) := ⟨(-e).toNat, by omega⟩
    have hpow : (0 : ℚ) < 2 ^ k := by positivity
    rw [decide_eq_true_eq, Int.neg_neg, Int.toNat_natCast, zpow_neg, zpow_natCast,
      mul_inv_le_iff₀ hpow, ← cast_twoTo]
    exact_mod_cast Iff.rfl

theorem roundQuotient_le (hden : 0 < den) (h : num ≤ bound * den) :
    roundQuotient num den ≤ bound := by
  have hparts := Nat.div_add_mod num den
  have hle : num / den ≤ bound := Nat.div_le_of_le_mul (by rwa [Nat.mul_comm])
  have hlt : 0 < num % den → num / den < bound := by
    intro hrest
    by_contra hge
    have hmul : bound * den ≤ den * (num / den) := by
      rw [Nat.mul_comm]
      exact Nat.mul_le_mul_left den (Nat.not_lt.mp hge)
    omega
  rw [roundQuotient]
  split
  · exact hle
  · have hrest := hlt (by omega)
    split <;> omega

theorem floorLog2_le (hden : 0 < den) (hbound : bound < 2 ^ 53) (h : num ≤ bound * den) :
    floorLog2 num den ≤ 52 := by
  have hlt : num < 2 ^ 53 * den :=
    Nat.lt_of_le_of_lt h (Nat.mul_lt_mul_of_pos_right hbound hden)
  have hlog : num.log2 ≤ den.log2 + 53 := by
    by_cases hnum : num = 0
    · simp [hnum]
    · have hpow : 2 ^ 53 * den < 2 ^ (den.log2 + 1 + 53) := by
        rw [Nat.pow_add, Nat.mul_comm]
        exact Nat.mul_lt_mul_of_pos_right Nat.lt_log2_self (by decide)
      have hbelow := (Nat.log2_lt hnum).mpr (Nat.lt_trans hlt hpow)
      omega
  -- The two sizes can tell one bit too many, which the comparison of the numbers takes back.
  have hreached : (num.log2 : Int) - den.log2 = 53 → ¬den * twoTo 53 ≤ num := by
    rintro - hle
    rw [Nat.mul_comm, twoTo, Nat.pow_eq] at hle
    omega
  rw [floorLog2]
  by_cases htop : (num.log2 : Int) - den.log2 = 53
  · rw [htop, if_neg]
    · rfl
    · simpa using hreached htop
  · split <;> omega

/-- Rounding keeps to the bound. -/
theorem within_ofRatio (negative : Bool) (hden : 0 < den) (hbound : bound < 2 ^ 53)
    (h : num ≤ bound * den) : (ofRatio negative num den).within bound = true := by
  rw [ofRatio]
  split
  · rw [within_finite]
    simp
  · have hlog := floorLog2_le hden hbound h
    dsimp only
    have he : max (floorLog2 num den - 52) (-1074) ≤ 0 := by omega
    generalize max (floorLog2 num den - 52) (-1074) = e at he
    have hrounded : (finite negative (if 0 ≤ e then roundQuotient num (den * twoTo e.toNat)
        else roundQuotient (num * twoTo (-e).toNat) den) e).within bound = true := by
      rw [within]
      split
      · obtain rfl : e = 0 := by omega
        simpa [twoTo] using roundQuotient_le hden h
      · rw [decide_eq_true_eq]
        apply roundQuotient_le hden
        rw [Nat.mul_right_comm]
        exact Nat.mul_le_mul_right _ h
    generalize (if 0 ≤ e then roundQuotient num (den * twoTo e.toNat)
      else roundQuotient (num * twoTo (-e).toNat) den) = m at hrounded
    by_cases htop : m = twoTo 53
    · rw [if_pos htop]
      rw [htop] at hrounded
      dsimp only
      rw [if_neg (by omega)]
      rw [within_finite, cast_twoTo] at hrounded ⊢
      rwa [zpow_add_one₀ (by decide), mul_comm (2 ^ e : ℚ), ← mul_assoc, ← pow_succ]
    · rw [if_neg htop]
      dsimp only
      rw [if_neg (by omega)]
      exact hrounded

theorem within_ofScaled (negative : Bool) (hbound : bound < 2 ^ 53)
    (h : (finite negative m e).within bound = true) :
    (ofScaled negative m e).within bound = true := by
  rw [within] at h
  rw [ofScaled]
  split
  · rename_i hpos
    rw [if_pos hpos, decide_eq_true_eq] at h
    exact within_ofRatio negative Nat.one_pos hbound (by rwa [Nat.mul_one])
  · rename_i hneg
    rw [if_neg hneg, decide_eq_true_eq] at h
    exact within_ofRatio negative (Nat.pow_pos (by decide)) hbound h

theorem within_mul {bound' : Nat} (hx : x.within bound = true) (hy : y.within bound' = true)
    (hbound : bound * bound' < 2 ^ 53) : (x.mul y).within (bound * bound') = true := by
  cases x with
  | nan => cases hx
  | infinite => cases hx
  | finite s m e =>
    cases y with
    | nan => cases hy
    | infinite => cases hy
    | finite t n f =>
      rw [within_finite] at hx hy
      rw [mul.eq_def]
      apply within_ofScaled _ hbound
      rw [within_finite, zpow_add₀ (by norm_num)]
      have hprod := mul_le_mul hx hy (by positivity) (Nat.cast_nonneg _)
      push_cast
      rwa [mul_mul_mul_comm]

/-- The nearest integer keeps to the bound, and so does the range it is moved into. -/
theorem toIntClamped_mem (lo hi : Int) (h : x.within bound = true) (hlo : lo ≤ 0) (hhi : 0 ≤ hi) :
    -(bound : Int) ≤ x.toIntClamped lo hi ∧ x.toIntClamped lo hi ≤ bound := by
  cases x with
  | nan => cases h
  | infinite => cases h
  | finite s m e =>
    rw [toIntClamped.eq_def]
    dsimp only
    have hnearest : (if 0 ≤ e then m * twoTo e.toNat
        else (2 * m + twoTo (-e).toNat) / twoTo ((-e).toNat + 1)) ≤ bound := by
      rw [within] at h
      split
      · rename_i hpos
        rw [if_pos hpos, decide_eq_true_eq] at h
        exact h
      · rename_i hneg
        rw [if_neg hneg, decide_eq_true_eq] at h
        have hunit : 0 < twoTo (-e).toNat := Nat.pow_pos (by decide)
        have hdouble : twoTo ((-e).toNat + 1) = 2 * twoTo (-e).toNat := Nat.pow_succ'
        rw [hdouble, ← Nat.lt_succ_iff, Nat.div_lt_iff_lt_mul (by omega), Nat.mul_left_comm,
          Nat.succ_mul bound]
        omega
    generalize (if 0 ≤ e then m * twoTo e.toNat
        else (2 * m + twoTo (-e).toNat) / twoTo ((-e).toNat + 1)) = n at hnearest
    split <;> omega

end Transit.Binary64
