import Transit.Proofs.Text.Slice
import Transit.Proofs.Text.Utf8

/-! # Words among the bytes of a text

A search that goes by bytes knows nothing of characters. Still it finds a word of ASCII characters
only where the word stands in the text, as no byte of another character is ASCII. So the offsets
that it tells are places of the text.
-/
namespace Transit.Text

open String (utf8Len)

variable {mark cs : List Char} {before word behind : List UInt8} {b : UInt8}

def bytes (cs : List Char) : List UInt8 := cs.flatMap String.utf8EncodeChar

theorem bytes_cons (c : Char) (cs : List Char) :
    bytes (c :: cs) = String.utf8EncodeChar c ++ bytes cs := List.flatMap_cons

theorem bytes_append (cs rest : List Char) : bytes (cs ++ rest) = bytes cs ++ bytes rest :=
  List.flatMap_append

theorem length_bytes (cs : List Char) : (bytes cs).length = utf8Len cs := by
  induction cs with
  | nil => rfl
  | cons c cs ih =>
    rw [bytes_cons, List.length_append, String.length_utf8EncodeChar, ih, String.utf8Len_cons,
      Nat.add_comm]

theorem bytes_injective : Function.Injective bytes := fun cs rest h => by
  have hpieces := congrArg Utf8.pieces h
  rw [bytes, bytes, Utf8.pieces_encode, Utf8.pieces_encode] at hpieces
  exact List.map_injective_iff.mpr (Option.some_injective _) hpieces

/-- All bytes of a longer character are above ASCII. The cases are those of the encoding. -/
theorem le_of_mem_utf8EncodeChar {c : Char} (h : 128 ≤ c.toNat) :
    ∀ b ∈ String.utf8EncodeChar c, 128 ≤ b.toNat := by
  change 128 ≤ c.val.toNat at h
  rw [String.utf8EncodeChar, if_neg (by omega)]
  split
  · simp
    omega
  split
  · simp
    omega
  · simp
    omega

/-- A byte that is ASCII is a character by itself. -/
theorem exists_char_of_bytes_eq_append (hb : b.toNat < 128) (h : bytes cs = before ++ b :: behind) :
    ∃ front c rest, cs = front ++ c :: rest ∧ bytes front = before ∧ bytes [c] = [b] ∧
      bytes rest = behind := by
  induction cs generalizing before with
  | nil => exact absurd h (by simp [bytes])
  | cons c cs ih =>
    rw [bytes_cons] at h
    -- Within the first character the byte can only be that character itself.
    rcases Nat.lt_or_ge before.length (String.utf8EncodeChar c).length with hinside | hpassed
    · have hget := congrArg (·[before.length]?) h
      have hmem : b ∈ String.utf8EncodeChar c := by
        apply List.mem_of_getElem? (i := before.length)
        simpa [List.getElem?_append_left hinside] using hget
      have hc : c.toNat < 128 := by
        by_contra hc
        exact Nat.not_le_of_lt hb (le_of_mem_utf8EncodeChar (Nat.le_of_not_lt hc) b hmem)
      rw [Utf8.encodeChar_ascii hc] at h hinside
      obtain rfl := List.eq_nil_of_length_eq_zero (Nat.lt_one_iff.mp hinside)
      obtain ⟨rfl, hrest⟩ := List.cons.inj h
      exact ⟨[], c, cs, rfl, rfl, by rw [bytes_cons, Utf8.encodeChar_ascii hc]; rfl, hrest⟩
    · obtain ⟨passed, rfl⟩ := List.prefix_of_prefix_length_le (List.prefix_append _ _)
        (h ▸ List.prefix_append before _) hpassed
      rw [List.append_assoc] at h
      obtain ⟨front, x, rest, rfl, rfl, hx, hrest⟩ := ih (List.append_cancel_left h)
      exact ⟨c :: front, x, rest, rfl, bytes_cons c front, hx, hrest⟩

theorem lt_of_mem_bytes (hcs : ∀ c ∈ cs, c.toNat < 128) : ∀ b ∈ bytes cs, b.toNat < 128 := by
  intro b hb
  obtain ⟨c, hc, hb⟩ := List.mem_flatMap.mp hb
  have hsmall := hcs c hc
  rw [Utf8.encodeChar_ascii hsmall, List.mem_singleton] at hb
  rw [hb, UInt8.toNat_ofNat']
  omega

/-- Where ASCII bytes stand among those of a text, the text has a part with these bytes. -/
theorem exists_word_of_bytes_eq_append (hword : ∀ b ∈ word, b.toNat < 128) (hne : word ≠ [])
    (h : bytes cs = before ++ (word ++ behind)) :
    ∃ front spelled rest, cs = front ++ (spelled ++ rest) ∧ bytes front = before ∧
      bytes spelled = word := by
  induction word generalizing cs before with
  | nil => exact absurd rfl hne
  | cons b word ih =>
    obtain ⟨hb, hword⟩ := List.forall_mem_cons.mp hword
    obtain ⟨front, c, rest, rfl, rfl, hc, hrest⟩ := exists_char_of_bytes_eq_append hb h
    cases word with
    | nil => exact ⟨front, [c], rest, rfl, rfl, hc⟩
    | cons x word =>
      obtain ⟨gap, spelled, rest, rfl, hgap, hspelled⟩ :=
        ih hword (List.cons_ne_nil x word) (hrest.trans (List.nil_append _).symm)
      obtain rfl : gap = [] := bytes_injective hgap
      refine ⟨front, c :: spelled, rest, rfl, rfl, ?_⟩
      rw [← List.singleton_append, bytes_append, hc, hspelled, List.singleton_append]

/-! ## Letters of either case -/

def lowerByte (b : UInt8) : UInt8 := if 65 ≤ b ∧ b ≤ 90 then b + 32 else b

theorem lowerByte_of_not_capital (h : ¬(65 ≤ b.toNat ∧ b.toNat ≤ 90)) : lowerByte b = b := if_neg h

theorem lowerByte_lt_iff : (lowerByte b).toNat < 128 ↔ b.toNat < 128 := by
  by_cases h : 65 ≤ b.toNat ∧ b.toNat ≤ 90
  · have hlower : lowerByte b = b + 32 := if_pos h
    have hgap : UInt8.toNat 32 = 32 := rfl
    rw [hlower, UInt8.toNat_add]
    omega
  · rw [lowerByte_of_not_capital h]

theorem utf8EncodeChar_toLower (c : Char) :
    String.utf8EncodeChar c.toLower = (String.utf8EncodeChar c).map lowerByte := by
  by_cases hcapital : 65 ≤ c.toNat ∧ c.toNat ≤ 90
  · have hall : ∀ n < 26, String.utf8EncodeChar (Char.ofNat (65 + n)).toLower =
        (String.utf8EncodeChar (Char.ofNat (65 + n))).map lowerByte := by decide
    obtain ⟨n, hn, rfl⟩ := exists_capital hcapital
    exact hall n hn
  · have hsame : ∀ b ∈ String.utf8EncodeChar c, lowerByte b = b := fun b hb => by
      refine lowerByte_of_not_capital ?_
      by_cases hc : c.toNat < 128
      · rw [Utf8.encodeChar_ascii hc, List.mem_singleton] at hb
        rw [hb, UInt8.toNat_ofNat']
        omega
      · have hlarge := le_of_mem_utf8EncodeChar (Nat.le_of_not_lt hc) b hb
        omega
    rw [toLower_of_not_capital hcapital, List.map_congr_left hsame, List.map_id']

theorem bytes_lowered (cs : List Char) : bytes (lowered cs) = (bytes cs).map lowerByte := by
  induction cs with
  | nil => rfl
  | cons c cs ih =>
    rw [lowered_cons, bytes_cons, bytes_cons, List.map_append, utf8EncodeChar_toLower, ih]

/-- A word ends at an offset among bytes, up to the case of ASCII letters. -/
def EndsAmong (text word : List UInt8) (offset : Nat) : Prop :=
  ∃ before spelled behind, text = before ++ (spelled ++ behind) ∧
    spelled.map lowerByte = word.map lowerByte ∧ (before ++ spelled).length = offset

/-- A word of ASCII characters ends among the bytes of a text where it ends in the text. -/
theorem endsAmong_bytes_iff (hascii : ∀ c ∈ mark, c.toNat < 128) (hne : mark ≠ [])
    {offset : Nat} :
    EndsAmong (bytes cs) (bytes mark) offset ↔
      ∃ front spelled rest, Spells mark spelled ∧ cs = front ++ (spelled ++ rest) ∧
        utf8Len (front ++ spelled) = offset := by
  constructor
  · rintro ⟨before, word, behind, hcs, hword, rfl⟩
    have hsmall : ∀ b ∈ word, b.toNat < 128 := fun b hb => by
      obtain ⟨a, ha, hsame⟩ := List.mem_map.mp (hword ▸ List.mem_map_of_mem hb)
      rw [← lowerByte_lt_iff, ← hsame, lowerByte_lt_iff]
      exact lt_of_mem_bytes hascii a ha
    have hsolid : word ≠ [] := by
      rintro rfl
      exact hne (bytes_injective (List.map_eq_nil_iff.mp hword.symm))
    obtain ⟨front, spelled, rest, rfl, rfl, rfl⟩ := exists_word_of_bytes_eq_append hsmall hsolid hcs
    rw [← bytes_lowered, ← bytes_lowered] at hword
    refine ⟨front, spelled, rest, spells_iff_lowered.mpr (bytes_injective hword).symm, rfl, ?_⟩
    rw [← bytes_append, length_bytes]
  · rintro ⟨front, spelled, rest, hspells, rfl, rfl⟩
    refine ⟨bytes front, bytes spelled, bytes rest, by rw [bytes_append, bytes_append], ?_, ?_⟩
    · rw [← bytes_lowered, ← bytes_lowered, spells_iff_lowered.mp hspells]
    · rw [← bytes_append, length_bytes]

end Transit.Text
