import Transit.Text.Utf8

/-! # Reading UTF-8 back

The bytes of a text are read as its characters, with nothing in between that is no UTF-8.
-/
namespace Transit.Text.Utf8

theorem piecesFrom_ascii {n : Nat} (h : n < 0x80) (rest : List UInt8) :
    piecesFrom none (UInt8.ofNat n :: rest) = some (Char.ofNat n) :: piecesFrom none rest := by
  have hn : n % 2 ^ 8 = n := by omega
  simp only [piecesFrom, start, UInt8.toNat_ofNat', hn, if_pos h, List.singleton_append]

/-- Six bits of a character, as long as they lie in the range for the next byte. -/
theorem proceed_bits {p : Partial} {k : Nat} (hk : k < 64) (hlow : p.low.toNat ≤ k + 0x80)
    (hhigh : k + 0x80 ≤ p.high.toNat) :
    proceed p (UInt8.ofNat (k + 0x80)) =
      if p.missing ≤ 1 then some ([some (Char.ofNat (p.value * 64 + k))], none)
      else some ([], some ⟨p.missing - 1, 0x80, 0xBF, p.value * 64 + k⟩) := by
  have hbyte : (k + 0x80) % 2 ^ 8 = k + 0x80 := by omega
  have hpart : (k + 0x80) % 64 = k := by omega
  have hrange : p.low ≤ UInt8.ofNat (k + 0x80) ∧ UInt8.ofNat (k + 0x80) ≤ p.high := by
    simp only [UInt8.le_iff_toNat_le, UInt8.toNat_ofNat', hbyte]
    exact ⟨hlow, hhigh⟩
  simp only [proceed, if_pos hrange, UInt8.toNat_ofNat', hbyte, hpart]

theorem piecesFrom_next {low high : UInt8} {missing value k : Nat} (hk : k < 64)
    (hlow : low.toNat ≤ k + 0x80) (hhigh : k + 0x80 ≤ high.toNat) (rest : List UInt8) :
    piecesFrom (some ⟨missing + 2, low, high, value⟩) (UInt8.ofNat (k + 0x80) :: rest) =
      piecesFrom (some ⟨missing + 1, 0x80, 0xBF, value * 64 + k⟩) rest := by
  have hmissing : ¬missing + 2 ≤ 1 := by omega
  rw [piecesFrom, proceed_bits hk hlow hhigh]
  simp only [if_neg hmissing]
  rfl

theorem piecesFrom_last {low high : UInt8} {value k : Nat} (hk : k < 64)
    (hlow : low.toNat ≤ k + 0x80) (hhigh : k + 0x80 ≤ high.toNat) (rest : List UInt8) :
    piecesFrom (some ⟨1, low, high, value⟩) (UInt8.ofNat (k + 0x80) :: rest) =
      some (Char.ofNat (value * 64 + k)) :: piecesFrom none rest := by
  rw [piecesFrom, proceed_bits hk hlow hhigh]
  rfl

theorem piecesFrom_two {x : Nat} (hlow : 2 ≤ x) (hhigh : x < 32) (rest : List UInt8) :
    piecesFrom none (UInt8.ofNat (x + 0xc0) :: rest) =
      piecesFrom (some ⟨1, 0x80, 0xBF, x⟩) rest := by
  have hbyte : (x + 0xc0) % 2 ^ 8 = x + 0xc0 := by omega
  have hpart : (x + 0xc0) % 32 = x := by omega
  simp only [piecesFrom, start, UInt8.toNat_ofNat', hbyte, hpart]
  rw [if_neg (by omega), if_neg (by omega), if_pos (by omega)]
  rfl

theorem piecesFrom_three {x : Nat} (hx : x < 16) (rest : List UInt8) :
    piecesFrom none (UInt8.ofNat (x + 0xe0) :: rest) =
      piecesFrom (some ⟨2, if x = 0 then 0xA0 else 0x80, if x = 13 then 0x9F else 0xBF, x⟩)
        rest := by
  have hbyte : (x + 0xe0) % 2 ^ 8 = x + 0xe0 := by omega
  have hpart : (x + 0xe0) % 16 = x := by omega
  simp only [piecesFrom, start, UInt8.toNat_ofNat', hbyte, hpart]
  rw [if_neg (by omega), if_neg (by omega), if_neg (by omega), if_pos (by omega)]
  simp

theorem piecesFrom_four {x : Nat} (hx : x < 5) (rest : List UInt8) :
    piecesFrom none (UInt8.ofNat (x + 0xf0) :: rest) =
      piecesFrom (some ⟨3, if x = 0 then 0x90 else 0x80, if x = 4 then 0x8F else 0xBF, x⟩)
        rest := by
  have hbyte : (x + 0xf0) % 2 ^ 8 = x + 0xf0 := by omega
  have hpart : (x + 0xf0) % 8 = x := by omega
  simp only [piecesFrom, start, UInt8.toNat_ofNat', hbyte, hpart]
  rw [if_neg (by omega), if_neg (by omega), if_neg (by omega), if_neg (by omega),
    if_pos (by omega)]
  simp

theorem toNat_range (c : Char) :
    c.toNat < 0xD800 ∨ 0xDFFF < c.toNat ∧ c.toNat < 0x110000 := by
  have h := c.valid
  simpa [UInt32.isValidChar, Nat.isValidChar] using h

/-- The bytes of one character are one piece. The cases are those of the encoding. -/
theorem piecesFrom_encodeChar (c : Char) (rest : List UInt8) :
    piecesFrom none (String.utf8EncodeChar c ++ rest) = some c :: piecesFrom none rest := by
  have hc := toNat_range c
  have hself := Char.ofNat_toNat c
  change (c.val.toNat < 0xD800 ∨ 0xDFFF < c.val.toNat ∧ c.val.toNat < 0x110000) at hc
  change Char.ofNat c.val.toNat = c at hself
  rw [String.utf8EncodeChar]
  generalize c.val.toNat = v at hc hself
  split
  · rw [List.singleton_append, piecesFrom_ascii (by omega), hself]
  split
  · have hx : v / 64 % 0x20 = v / 64 := by omega
    rw [hx, List.cons_append, List.singleton_append, piecesFrom_two (by omega) (by omega),
      piecesFrom_last (by omega) (by simp) (by simp; omega)]
    rw [show v / 64 * 64 + v % 0x40 = v by omega, hself]
  split
  · have hx : v / 4096 % 0x10 = v / 4096 := by omega
    have hlow : (if v / 4096 = 0 then 0xA0 else 0x80 : UInt8).toNat ≤ v / 64 % 0x40 + 0x80 := by
      split
      · simp
        omega
      · simp
    have hhigh : v / 64 % 0x40 + 0x80 ≤ (if v / 4096 = 13 then 0x9F else 0xBF : UInt8).toNat := by
      split <;> (simp; omega)
    rw [hx, List.cons_append, List.cons_append, List.singleton_append,
      piecesFrom_three (by omega), piecesFrom_next (by omega) hlow hhigh,
      piecesFrom_last (by omega) (by simp) (by simp; omega)]
    rw [show (v / 4096 * 64 + v / 64 % 0x40) * 64 + v % 0x40 = v by omega, hself]
  · have hx : v / 262144 % 0x08 = v / 262144 := by omega
    have hlow : (if v / 262144 = 0 then 0x90 else 0x80 : UInt8).toNat ≤
        v / 4096 % 0x40 + 0x80 := by
      split
      · simp
        omega
      · simp
    have hhigh : v / 4096 % 0x40 + 0x80 ≤
        (if v / 262144 = 4 then 0x8F else 0xBF : UInt8).toNat := by
      split <;> (simp; omega)
    rw [hx, List.cons_append, List.cons_append, List.cons_append, List.singleton_append,
      piecesFrom_four (by omega), piecesFrom_next (by omega) hlow hhigh,
      piecesFrom_next (by omega) (by simp) (by simp; omega),
      piecesFrom_last (by omega) (by simp) (by simp; omega)]
    rw [show ((v / 262144 * 64 + v / 4096 % 0x40) * 64 + v / 64 % 0x40) * 64 + v % 0x40 = v by
      omega, hself]

theorem pieces_encode (cs : List Char) :
    pieces (cs.flatMap String.utf8EncodeChar) = cs.map some := by
  induction cs with
  | nil => rfl
  | cons c cs ih =>
    rw [List.flatMap_cons, pieces, piecesFrom_encodeChar]
    exact congrArg (some c :: ·) ih

private theorem byteList_loop (bytes : ByteArray) (i : Nat) (before : List UInt8) :
    ByteArray.toList.loop bytes i before = before.reverse ++ bytes.data.toList.drop i := by
  fun_induction ByteArray.toList.loop bytes i before with
  | case1 i before hi ih =>
    have hget : bytes.get! i = bytes.data.toList[i] := getElem!_pos bytes.data i hi
    rw [ih, List.reverse_cons, List.append_assoc, hget, List.singleton_append,
      List.getElem_cons_drop]
  | case2 i before hi =>
    have hdrop : bytes.data.toList.drop i = [] := List.drop_eq_nil_of_le (Nat.le_of_not_lt hi)
    rw [hdrop, List.append_nil]

theorem toList_toUTF8 (s : String) :
    s.toUTF8.toList = s.toList.flatMap String.utf8EncodeChar := by
  rw [ByteArray.toList, byteList_loop, String.toUTF8_eq_toByteArray, ← String.utf8Encode_toList,
    List.utf8Encode, List.toList_data_toByteArray]
  rfl

/-- The bytes of a text are its characters. -/
theorem pieces_toUTF8 (s : String) : pieces s.toUTF8.toList = s.toList.map some := by
  rw [toList_toUTF8, pieces_encode]

theorem encodeChar_ascii {c : Char} (h : c.toNat < 128) :
    String.utf8EncodeChar c = [UInt8.ofNat c.toNat] := by
  change c.val.toNat < 128 at h
  rw [String.utf8EncodeChar, if_pos (by omega)]
  rfl

/-- Bytes that are characters by themselves are the bytes of their text. -/
theorem toUTF8_ofList_ascii {bytes : List UInt8} (h : ∀ b ∈ bytes, b.toNat < 128) :
    (String.ofList (bytes.map fun b => Char.ofNat b.toNat)).toUTF8.toList = bytes := by
  rw [toList_toUTF8, String.toList_ofList]
  induction bytes with
  | nil => rfl
  | cons b bytes ih =>
    obtain ⟨hb, hrest⟩ := List.forall_mem_cons.mp h
    have hval : (Char.ofNat b.toNat).toNat = b.toNat := by
      have hvalid : b.toNat.isValidChar := .inl (by omega)
      rw [Char.ofNat, dif_pos hvalid]
      rfl
    have hbyte : String.utf8EncodeChar (Char.ofNat b.toNat) = [b] := by
      rw [encodeChar_ascii (Nat.lt_of_le_of_lt (Nat.le_of_eq hval) hb), hval, UInt8.ofNat_toNat]
    rw [List.map_cons, List.flatMap_cons, hbyte, ih hrest]
    rfl

end Transit.Text.Utf8
