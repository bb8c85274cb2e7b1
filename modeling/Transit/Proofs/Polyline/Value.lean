import Transit.Proofs.Polyline.Words

/-! # One value of a polyline

A value is read back from what is written for it, together with the bytes behind it, as long as it
has room in the format. A value without room takes eight groups or more, and reading ends behind the
seventh.
-/
namespace Transit.Polyline

variable {n k : Nat} {v : Int}

/-- Groups of a number with more than 35 bits go on behind the last one that is read, from wherever
its lowest ones begin. -/
theorem readGroups_groups_eq_none (hk : k ≤ 7) (hn : 2 ^ (35 - 5 * k) ≤ n) (low : Nat)
    (rest : List UInt8) : readGroups (5 * k) low ((groups n).map groupByte ++ rest) = none := by
  fun_induction groups n generalizing k low with
  | case1 n hlast =>
    -- A single group would be read unless seven groups have been read before.
    have hbits : 35 - 5 * k < 5 := (Nat.pow_lt_pow_iff_right (a := 2) (by decide)).mp (by omega)
    exact readGroups_eq_none (by omega) low rest
  | case2 n hmore ih =>
    rw [List.map_cons, List.cons_append]
    rcases Nat.lt_or_eq_of_le hk with hnext | rfl
    · have hbits : 2 ^ (35 - 5 * (k + 1)) ≤ n / 32 := by
        rw [two_pow_left hnext] at hn
        omega
      rw [readGroups_cons (by omega) (by omega), if_neg (by omega)]
      exact ih hnext hbits _
    · exact readGroups_eq_none (by omega) low _

theorem readValue_writeValue_eq_none (h : ¬HasRoom v) (rest : List UInt8) :
    readValue (writeValue v ++ rest) = none := by
  have hfold : 2 ^ (35 - 5 * 0) ≤ fold v := Nat.le_of_not_lt (mt fold_lt_iff.mp h)
  exact readGroups_groups_eq_none (Nat.zero_le 7) hfold 0 rest

theorem readValue_writeValue_eq (v : Int) (rest : List UInt8) :
    readValue (writeValue v ++ rest) = if HasRoom v then some (v, rest) else none := by
  by_cases hroom : HasRoom v
  · rw [readValue_writeValue hroom, if_pos hroom]
  · rw [readValue_writeValue_eq_none hroom, if_neg hroom]

/-- A value below 2^62 is written in machine words, and it is read back together with the bytes
behind it if it has room in the format. Otherwise nothing is read. -/
theorem value_read_iff_room (h : |v| < 2 ^ 62) (rest : List UInt8) :
    readValue (writeValue v ++ rest) = (if HasRoom v then some (v, rest) else none) ∧
      Words.writeValue (.ofInt v) = .ok (writeValue v) ∧
      Words.readValue (writeValue v ++ rest) =
        .ok (if HasRoom v then some (.ofInt v, rest) else none) := by
  obtain ⟨hlow, hhigh⟩ := abs_lt.mp h
  refine ⟨readValue_writeValue_eq v rest, Words.writeValue_ofInt ⟨by omega, by omega⟩, ?_⟩
  rw [Words.readValue_eq, readValue_writeValue_eq, apply_ite (Option.map _)]
  rfl

/-- The greatest value that is read back, and the next one, before a question mark. -/
theorem value_read_at_edge :
    |(2 ^ 34 - 1 : Int)| < 2 ^ 62 ∧ |(2 ^ 34 : Int)| < 2 ^ 62 ∧
      readValue (writeValue (2 ^ 34 - 1) ++ [63]) = some (2 ^ 34 - 1, [63]) ∧
      Words.readValue (writeValue (2 ^ 34) ++ [63]) = .ok none := by
  have hlast : |(2 ^ 34 - 1 : Int)| < 2 ^ 62 := by decide
  have hnext : |(2 ^ 34 : Int)| < 2 ^ 62 := by decide
  exact ⟨hlast, hnext, (value_read_iff_room hlast [63]).1, (value_read_iff_room hnext [63]).2.2⟩

end Transit.Polyline
