import Transit.Proofs.Text.Bytes
import Transit.Url.Percent

/-! # Percent encoding taken back

Whatever is encoded is decoded to what it was, as far as percent signs are encoded themselves. What
is encoded has no reserved character but the percent signs of its own.
-/
namespace Transit.Url.Percent

open Text (hexValue?)

variable {reserved : Reserved} {c : Char} {cs rest : List Char} {b : UInt8}

theorem hexValue?_upperHex : ∀ n < 16, hexValue? (upperHex n) = some n := by decide

theorem decodeBytes_encodeByte (b : UInt8) (rest : List Char) :
    decodeBytes (encodeByte b ++ rest) = b :: decodeBytes rest := by
  have hb : b.toNat < 256 := b.toNat_lt
  have hvalue : b.toNat / 16 * 16 + b.toNat % 16 = b.toNat := by omega
  rw [encodeByte, List.cons_append, List.cons_append, List.singleton_append, decodeBytes,
    hexValue?_upperHex _ (by omega), hexValue?_upperHex _ (by omega)]
  simp only [hvalue, UInt8.ofNat_toNat]

theorem decodeBytes_encodeBytes (bytes : List UInt8) (rest : List Char) :
    decodeBytes (bytes.flatMap encodeByte ++ rest) = bytes ++ decodeBytes rest := by
  induction bytes with
  | nil => rfl
  | cons b bytes ih =>
    rw [List.flatMap_cons, List.append_assoc, decodeBytes_encodeByte, ih, List.cons_append]

theorem decodeBytes_literal (hc : c ≠ '%') (rest : List Char) :
    decodeBytes (c :: rest) = bytes c ++ decodeBytes rest := by
  rw [decodeBytes]
  exact fun a b cs h => absurd h hc

theorem encodeChar_cases (reserved : Reserved) (c : Char) :
    (encodeChar reserved c = [c] ∧ c.toNat < 0x80 ∧ reserved c = false) ∨
      encodeChar reserved c = (bytes c).flatMap encodeByte ∧ (c.toNat < 0x80 → reserved c) := by
  rw [encodeChar]
  split
  next h =>
    simp only [Bool.and_eq_true, decide_eq_true_eq, Bool.not_eq_true'] at h
    exact .inl ⟨rfl, h⟩
  next h =>
    simp only [Bool.and_eq_true, decide_eq_true_eq, Bool.not_eq_true', not_and,
      Bool.not_eq_false] at h
    exact .inr ⟨rfl, h⟩

theorem decodeBytes_encodeChar (hpercent : reserved '%' = true) (c : Char) (rest : List Char) :
    decodeBytes (encodeChar reserved c ++ rest) = bytes c ++ decodeBytes rest := by
  rcases encodeChar_cases reserved c with ⟨hencode, -, hfree⟩ | ⟨hencode, -⟩
  · rw [hencode, List.singleton_append, decodeBytes_literal]
    rintro rfl
    rw [hpercent] at hfree
    cases hfree
  · rw [hencode, decodeBytes_encodeBytes]

theorem decodeBytes_encode (hpercent : reserved '%' = true) (cs : List Char) :
    decodeBytes (encode reserved cs) = Text.bytes cs := by
  induction cs with
  | nil => rfl
  | cons c cs ih =>
    rw [encode, List.flatMap_cons, decodeBytes_encodeChar hpercent, ← encode, ih, Text.bytes_cons,
      bytes]

theorem fromUTF8?_bytes (cs : List Char) :
    String.fromUTF8? ⟨(Text.bytes cs).toArray⟩ = some (String.ofList cs) := by
  have hbytes : (⟨(Text.bytes cs).toArray⟩ : ByteArray) = (String.ofList cs).toByteArray := by
    apply ByteArray.ext
    rw [String.toByteArray_ofList, List.utf8Encode, List.data_toByteArray]
    rfl
  rw [hbytes, String.fromUTF8?, dif_pos (String.ofList cs).isValidUTF8]
  rfl

theorem decode?_encode (hpercent : reserved '%' = true) (cs : List Char) :
    decode? (encode reserved cs) = some cs := by
  rw [decode?, decodeBytes_encode hpercent, fromUTF8?_bytes, Option.map_some, String.toList_ofList]

theorem encode_injective (hpercent : reserved '%' = true) :
    Function.Injective (encode reserved) := fun cs rest h =>
  Option.some.inj (by rw [← decode?_encode hpercent cs, h, decode?_encode hpercent])

/-! ### What an encoded text has -/

theorem mem_encodeByte (h : c ∈ encodeByte b) : c = '%' ∨ (hexValue? c).isSome := by
  have hb : b.toNat < 256 := b.toNat_lt
  rw [encodeByte, List.mem_cons, List.mem_pair] at h
  rcases h with rfl | rfl | rfl
  · exact .inl rfl
  · exact .inr (by rw [hexValue?_upperHex _ (by omega)]; rfl)
  · exact .inr (by rw [hexValue?_upperHex _ (by omega)]; rfl)

/-- What is reserved is not in an encoded text, unless the encoding needs it. -/
theorem not_mem_encode (hreserved : reserved c = true) (hpercent : c ≠ '%')
    (hvalue : hexValue? c = none) (cs : List Char) : c ∉ encode reserved cs := by
  intro h
  obtain ⟨a, -, ha⟩ := List.mem_flatMap.mp h
  rcases encodeChar_cases reserved a with ⟨hencode, -, hfree⟩ | ⟨hencode, -⟩
  · rw [hencode, List.mem_singleton] at ha
    subst ha
    rw [hreserved] at hfree
    cases hfree
  · rw [hencode] at ha
    obtain ⟨b, -, hb⟩ := List.mem_flatMap.mp ha
    rcases mem_encodeByte hb with rfl | hsome
    · exact hpercent rfl
    · rw [hvalue] at hsome
      cases hsome

end Transit.Url.Percent
