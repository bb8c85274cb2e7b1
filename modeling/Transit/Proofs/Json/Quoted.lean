import Transit.Json.Reader
import Transit.Json.Writer
import Transit.Proofs.Text.Utf8

/-! # Quoted texts read back

Each character of a text has one escaped form, and reading it gives the character and leaves what
follows.
-/
namespace Transit.Json.Quoted

theorem hexValue_hexDigit : ∀ n < 16, Text.hexValue? (hexDigit n) = some n := by decide

/-- A character stands for itself, or behind a backslash as a letter or as its number. -/
theorem encodeChar_cases (c : Char) :
    (∃ e, e ≠ 'u' ∧ escaped? e = some c ∧ encodeChar c = ['\\', e]) ∨
      (c.toNat < 32 ∧ encodeChar c =
        ['\\', 'u', '0', '0', hexDigit (c.toNat / 16), hexDigit (c.toNat % 16)]) ∨
      c ≠ '"' ∧ c ≠ '\\' ∧ 32 ≤ c.toNat ∧ encodeChar c = [c] := by
  fun_cases encodeChar c with
  | case1 h => exact .inl ⟨'"', by decide, by rw [h]; rfl, rfl⟩
  | case2 _ h => exact .inl ⟨'\\', by decide, by rw [h]; rfl, rfl⟩
  | case3 _ _ h => exact .inl ⟨'b', by decide, h ▸ rfl, rfl⟩
  | case4 _ _ _ h => exact .inl ⟨'f', by decide, h ▸ rfl, rfl⟩
  | case5 _ _ _ _ h => exact .inl ⟨'n', by decide, h ▸ rfl, rfl⟩
  | case6 _ _ _ _ _ h => exact .inl ⟨'r', by decide, h ▸ rfl, rfl⟩
  | case7 _ _ _ _ _ _ h => exact .inl ⟨'t', by decide, h ▸ rfl, rfl⟩
  | case8 _ _ _ _ _ _ _ h => exact .inr (.inl ⟨h, rfl⟩)
  | case9 hquote hslash _ _ _ _ _ h => exact .inr (.inr ⟨hquote, hslash, by omega, rfl⟩)

theorem units_letter {e c : Char} (hu : e ≠ 'u') (h : escaped? e = some c) (rest : List Char) :
    units? ('\\' :: e :: rest) = prepend c.toNat (units? rest) := by
  simp [units?, hu, h]

theorem units_number {n : Nat} (h : n < 32) (rest : List Char) :
    units? ('\\' :: 'u' :: '0' :: '0' :: hexDigit (n / 16) :: hexDigit (n % 16) :: rest) =
      prepend n (units? rest) := by
  have hhigh := hexValue_hexDigit (n / 16) (by omega)
  have hlow := hexValue_hexDigit (n % 16) (by omega)
  have hzero : Text.hexValue? '0' = some 0 := by decide
  have hcode : ((0 * 16 + 0) * 16 + n / 16) * 16 + n % 16 = n := by omega
  rw [units?, hex4?, hhigh, hlow, hzero]
  simp only [hcode]

theorem units_plain {c : Char} (hquote : c ≠ '"') (hslash : c ≠ '\\') (h : 32 ≤ c.toNat)
    (rest : List Char) : units? (c :: rest) = prepend c.toNat (units? rest) := by
  rw [units?.eq_def]
  split
  · contradiction
  · simp_all
  · simp_all
  · simp_all
  · rename_i hcons
    obtain ⟨rfl, rfl⟩ := List.cons.inj hcons
    rw [if_neg (by simp [h, hslash])]

theorem units_encodeChar (c : Char) (rest : List Char) :
    units? (encodeChar c ++ rest) = prepend c.toNat (units? rest) := by
  rcases encodeChar_cases c with ⟨e, hu, he, henc⟩ | ⟨h, henc⟩ | ⟨hquote, hslash, h, henc⟩
  · rw [henc]
    exact units_letter hu he rest
  · rw [henc]
    exact units_number h rest
  · rw [henc]
    exact units_plain hquote hslash h rest

theorem units_encodeTail (cs rest : List Char) :
    units? (encodeTail cs ++ rest) = some (cs.map Char.toNat, rest) := by
  induction cs with
  | nil => rfl
  | cons c cs ih =>
    rw [encodeTail, List.append_assoc, units_encodeChar, ih]
    rfl

theorem scalars_cons (c : Char) (rest : List Nat) :
    scalars? (c.toNat :: rest) = (scalars? rest).map (c :: ·) := by
  have hc := Text.Utf8.toNat_range c
  have hhigh : isHigh c.toNat = false := by
    simp only [isHigh, Bool.and_eq_false_iff, decide_eq_false_iff_not]
    omega
  have hlow : isLow c.toNat = false := by
    simp only [isLow, Bool.and_eq_false_iff, decide_eq_false_iff_not]
    omega
  cases rest with
  | nil => simp [scalars?, hhigh, hlow, Char.ofNat_toNat]
  | cons m rest => simp [scalars?, hhigh, hlow, Char.ofNat_toNat]

theorem scalars_toNat (cs : List Char) : scalars? (cs.map Char.toNat) = some cs := by
  induction cs with
  | nil => rfl
  | cons c cs ih => rw [List.map_cons, scalars_cons, ih, Option.map_some]

end Quoted

/-- A text is read back from behind its opening quote. -/
theorem quoted_encodeTail (s : String) (rest : List Char) :
    quoted? (Quoted.encodeTail s.toList ++ rest) = some (some s, rest) := by
  rw [quoted?, Quoted.units_encodeTail]
  simp only [Quoted.scalars_toNat, Option.map_some, String.ofList_toList]

end Transit.Json
