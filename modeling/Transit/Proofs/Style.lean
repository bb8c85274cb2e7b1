import Mathlib.Data.List.DropRight
import Transit.Proofs.Text.Hexadecimal
import Transit.Style

/-! # Colors in hexadecimal digits

A color is read from six hexadecimal digits behind a number sign or none, within blanks. Two more
forms are read: number signs may be repeated, and a plus sign may stand for the first digit.
-/
namespace Transit

namespace Text

variable {core cs : List Char}

/-- The text is `core` between blanks. -/
def Framed (core cs : List Char) : Prop :=
  ∃ before behind, (∀ c ∈ before, isBlank c = true) ∧ (∀ c ∈ behind, isBlank c = true) ∧
    cs = before ++ (core ++ behind)

theorem framed_strip (cs : List Char) : Framed (strip cs) cs := by
  refine ⟨cs.takeWhile isBlank, (stripStart cs).rtakeWhile isBlank,
    fun _ => List.mem_takeWhile_imp, fun _ => List.mem_rtakeWhile_imp, ?_⟩
  have hend : strip cs ++ (stripStart cs).rtakeWhile isBlank = stripStart cs :=
    List.rdropWhile_append_rtakeWhile
  rw [hend, stripStart, List.takeWhile_append_dropWhile]

theorem Framed.strip_eq (h : Framed core cs) (hsolid : ∀ c ∈ core, isBlank c = false) :
    strip cs = core := by
  obtain ⟨before, behind, hbefore, hbehind, rfl⟩ := h
  cases core with
  | nil =>
    rw [strip_eq_nil_iff, List.nil_append, List.forall_mem_append]
    exact ⟨hbefore, hbehind⟩
  | cons c core =>
    have hback : ∀ x ∈ (c :: core).reverse, isBlank x = false := fun x hx =>
      hsolid x (List.mem_reverse.mp hx)
    rw [strip, List.cons_append, stripStart_append hbefore (hsolid c List.mem_cons_self),
      ← List.cons_append, stripEnd, dropEndWhile, List.reverse_append,
      List.dropWhile_append_of_pos (by simpa using hbehind), dropWhile_eq_self hback,
      List.reverse_reverse]

end Text

namespace Style

open Text (Framed IsHexDigit Numeral)

variable {cs sign digits : List Char} {c : Char} {d m n marks : Nat} {s : String} {color : UInt32}

/-! ### Digits with a sign -/

/-- The number of some digits with one more digit behind them. -/
private def withDigit (n? : Option Nat) (c : Char) : Option Nat :=
  n?.bind fun n => (Text.hexValue? c).map (n * 16 + ·)

private theorem foldl_withDigit_none (cs : List Char) : cs.foldl withDigit none = none := by
  induction cs with
  | nil => rfl
  | cons c cs ih => exact ih

private theorem foldl_withDigit (cs : List Char) (m : Nat) :
    cs.foldl withDigit (some m) = some n ↔
      ∃ ds, List.Forall₂ IsHexDigit cs ds ∧ n = ds.foldl (fun n d => n * 16 + d) m := by
  induction cs generalizing m with
  | nil => simp [eq_comm]
  | cons c cs ih =>
    rw [List.foldl_cons, withDigit, Option.bind_some]
    cases hvalue : Text.hexValue? c with
    | none =>
      rw [Option.map_none, foldl_withDigit_none]
      refine iff_of_false nofun ?_
      rintro ⟨_, hdigits, -⟩
      cases hdigits with
      | cons hdigit => simp [Text.hexValue?_eq_some_iff.mpr hdigit] at hvalue
    | some d =>
      rw [Option.map_some, ih]
      constructor
      · rintro ⟨ds, hdigits, rfl⟩
        exact ⟨d :: ds, .cons (Text.hexValue?_eq_some_iff.mp hvalue) hdigits, rfl⟩
      · rintro ⟨_, hdigits, rfl⟩
        cases hdigits with
        | cons hdigit hdigits =>
          rw [Text.hexValue?_eq_some_iff.mpr hdigit] at hvalue
          obtain rfl := Option.some.inj hvalue
          exact ⟨_, hdigits, rfl⟩

/-- The number of one hexadecimal digit or more. -/
private def unsigned? (digits : List Char) : Option Nat :=
  if digits.isEmpty then none else digits.foldl withDigit (some 0)

private theorem unsigned?_eq_some_iff :
    unsigned? digits = some n ↔ digits ≠ [] ∧ Numeral digits n := by
  cases digits with
  | nil => simp [unsigned?]
  | cons c digits =>
    rw [unsigned?, List.isEmpty_cons, if_neg Bool.false_ne_true, foldl_withDigit]
    simp only [Numeral, Text.ofDigits_reverse, ne_eq, reduceCtorEq, not_false_eq_true, true_and]

private theorem withDigit_eq : withDigit = fun n? c => match n?, Text.hexValue? c with
    | some n, some d => some (n * 16 + d)
    | _, _ => none := by
  funext n? c
  cases n? <;> cases hvalue : Text.hexValue? c <;> simp [withDigit, hvalue]

private theorem hexNumber?_plus (digits : List Char) :
    hexNumber? ('+' :: digits) = unsigned? digits := by
  rw [unsigned?, withDigit_eq]
  rfl

private theorem hexNumber?_of_no_plus (h : ∀ rest, cs ≠ '+' :: rest) :
    hexNumber? cs = unsigned? cs := by
  have hread := hexNumber?.eq_2 cs h
  rw [unsigned?, withDigit_eq]
  exact hread

/-- What may stand in front of the digits. -/
def IsSign (sign : List Char) : Prop := sign = [] ∨ sign = ['+']

theorem hexNumber?_eq_some_iff : hexNumber? cs = some n ↔
    ∃ sign digits, IsSign sign ∧ cs = sign ++ digits ∧ digits ≠ [] ∧ Numeral digits n := by
  by_cases hplus : ∃ rest, cs = '+' :: rest
  · obtain ⟨rest, rfl⟩ := hplus
    rw [hexNumber?_plus, unsigned?_eq_some_iff]
    constructor
    · exact fun h => ⟨['+'], rest, .inr rfl, rfl, h⟩
    · rintro ⟨sign, digits, rfl | rfl, hcs, hnumeral⟩
      · -- a numeral does not begin with a plus sign
        rw [List.nil_append] at hcs
        subst hcs
        exact absurd List.mem_cons_self (hnumeral.2.not_mem rfl)
      · obtain rfl := List.tail_eq_of_cons_eq hcs
        exact hnumeral
  · rw [hexNumber?_of_no_plus (not_exists.mp hplus), unsigned?_eq_some_iff]
    constructor
    · exact fun h => ⟨[], cs, .inl rfl, rfl, h⟩
    · rintro ⟨sign, digits, rfl | rfl, rfl, hnumeral⟩
      · exact hnumeral
      · exact absurd ⟨digits, rfl⟩ hplus

/-! ### Number signs in front -/

/-- Number signs, a sign and hexadecimal digits, six characters with the sign, within blanks. The
color that they spell is opaque. -/
def Spells (marks : Nat) (sign : List Char) (s : String) (color : UInt32) : Prop :=
  ∃ digits n, Framed (List.replicate marks '#' ++ (sign ++ digits)) s.toList ∧
    (sign ++ digits).length = 6 ∧ Numeral digits n ∧ color.toNat = 0xFF000000 + n

theorem solid_of_numeral (h : Numeral digits n) : ∀ c ∈ digits, Text.isBlank c = false := by
  intro c hc
  obtain ⟨d, hdigit⟩ := h.exists_digit c hc
  exact hdigit.isBlank

theorem toNat_opaque (h : n < 16 ^ 6) : (UInt32.ofNat (0xFF000000 + n)).toNat = 0xFF000000 + n := by
  rw [UInt32.toNat_ofNat']
  omega

/-- Blanks surround no part of number signs, a sign and digits. -/
theorem strip_of_framed (hsign : IsSign sign) (hnumeral : Numeral digits n)
    (h : Framed (List.replicate marks '#' ++ (sign ++ digits)) cs) :
    Text.strip cs = List.replicate marks '#' ++ (sign ++ digits) := by
  apply h.strip_eq
  rw [List.forall_mem_append, List.forall_mem_append]
  refine ⟨fun c hc => ?_, ?_, solid_of_numeral hnumeral⟩
  · rw [List.eq_of_mem_replicate hc]
    rfl
  · rcases hsign with rfl | rfl <;> simp [Text.isBlank]

/-- A sign and digits do not begin with a number sign. -/
theorem dropWhile_marks (hsign : IsSign sign) (hnumeral : Numeral digits n) (marks : Nat) :
    (List.replicate marks '#' ++ (sign ++ digits)).dropWhile (· == '#') = sign ++ digits := by
  rw [List.dropWhile_append_of_pos fun c hc => by simp [List.eq_of_mem_replicate hc]]
  have hmark : '#' ∉ sign ++ digits := by
    rw [List.mem_append, not_or]
    refine ⟨?_, hnumeral.not_mem rfl⟩
    rcases hsign with rfl | rfl <;> simp
  rw [List.dropWhile_eq_self_iff]
  intro hpos hfirst
  rw [beq_iff_eq] at hfirst
  exact hmark (hfirst ▸ List.getElem_mem hpos)

theorem parseRgb_eq_some_iff : parseRgb s = some color ↔
    ∃ marks sign, IsSign sign ∧ Spells marks sign s color := by
  rw [parseRgb]
  constructor
  · intro h
    split_ifs at h with hlength
    obtain ⟨n, hnumber, rfl⟩ := Option.map_eq_some_iff.mp h
    obtain ⟨sign, digits, hsign, hcs, -, hnumeral⟩ := hexNumber?_eq_some_iff.mp hnumber
    rw [hcs] at hlength
    obtain ⟨marks, hmarks⟩ : ∃ marks,
        (Text.strip s.toList).takeWhile (· == '#') = List.replicate marks '#' :=
      ⟨_, List.eq_replicate_length.mpr fun c hc => by simpa using List.mem_takeWhile_imp hc⟩
    refine ⟨marks, sign, hsign, digits, n, ?_, hlength, hnumeral, toNat_opaque ?_⟩
    · rw [← hcs, ← hmarks, List.takeWhile_append_dropWhile]
      exact Text.framed_strip _
    · exact hnumeral.lt.trans_le (Nat.pow_le_pow_right (by omega) (by simp at hlength; omega))
  · rintro ⟨marks, sign, hsign, digits, n, hframed, hlength, hnumeral, hcolor⟩
    have hne : digits ≠ [] := by
      rintro rfl
      rcases hsign with rfl | rfl <;> simp at hlength
    rw [strip_of_framed hsign hnumeral hframed, dropWhile_marks hsign hnumeral, if_pos hlength,
      hexNumber?_eq_some_iff.mpr ⟨sign, digits, hsign, rfl, hne, hnumeral⟩, Option.map_some,
      ← hcolor, UInt32.ofNat_toNat]

/-- The number sign and the plus sign are neither blanks nor digits. -/
theorem count_of_spells (h : Spells marks sign s color) (hc : c = '#' ∨ c = '+') :
    s.toList.count c = (List.replicate marks '#').count c + sign.count c := by
  obtain ⟨digits, n, ⟨before, behind, hbefore, hbehind, hs⟩, -, hnumeral, -⟩ := h
  have hsolid : Text.isBlank c = false := by rcases hc with rfl | rfl <;> rfl
  have hvalue : Text.hexValue? c = none := by rcases hc with rfl | rfl <;> rfl
  have hblank {blanks : List Char} (h : ∀ c ∈ blanks, Text.isBlank c = true) :
      blanks.count c = 0 :=
    List.count_eq_zero.mpr fun hmem => Bool.false_ne_true (hsolid.symm.trans (h c hmem))
  simp only [hs, List.count_append, hblank hbefore, hblank hbehind,
    List.count_eq_zero.mpr (hnumeral.not_mem hvalue)]
  omega

/-- The two forms that are meant: six digits, with one number sign in front or none. -/
def Written (s : String) (color : UInt32) : Prop := ∃ marks ≤ 1, Spells marks [] s color

theorem Written.plain (h : Written s color) : s.toList.count '#' ≤ 1 ∧ '+' ∉ s.toList := by
  obtain ⟨marks, hmarks, hspells⟩ := h
  rw [← List.count_eq_zero, count_of_spells hspells (.inl rfl), count_of_spells hspells (.inr rfl)]
  simp [List.count_replicate, hmarks]

/-- Besides the two written forms, repeated number signs and a plus sign are read, and nothing
else. What these two forms lack tells them from the others. -/
theorem parseRgb_forms (s : String) (color : UInt32) :
    (parseRgb s = some color ↔ Written s color ∨ (∃ marks ≥ 2, Spells marks [] s color) ∨
      ∃ marks, Spells marks ['+'] s color) ∧
    (Written s color ↔ parseRgb s = some color ∧ s.toList.count '#' ≤ 1 ∧ '+' ∉ s.toList) := by
  have hforms : parseRgb s = some color ↔ Written s color ∨
      (∃ marks ≥ 2, Spells marks [] s color) ∨ ∃ marks, Spells marks ['+'] s color := by
    rw [parseRgb_eq_some_iff]
    constructor
    · rintro ⟨marks, sign, rfl | rfl, hspells⟩
      · by_cases hmarks : marks ≤ 1
        · exact .inl ⟨marks, hmarks, hspells⟩
        · exact .inr (.inl ⟨marks, by omega, hspells⟩)
      · exact .inr (.inr ⟨marks, hspells⟩)
    · rintro (⟨marks, -, hspells⟩ | ⟨marks, -, hspells⟩ | ⟨marks, hspells⟩)
      · exact ⟨marks, [], .inl rfl, hspells⟩
      · exact ⟨marks, [], .inl rfl, hspells⟩
      · exact ⟨marks, ['+'], .inr rfl, hspells⟩
  refine ⟨hforms, fun h => ⟨hforms.mpr (.inl h), h.plain⟩, ?_⟩
  rintro ⟨hread, hmark, hplus⟩
  rcases hforms.mp hread with h | ⟨marks, hmarks, hspells⟩ | ⟨marks, hspells⟩
  · exact h
  · rw [count_of_spells hspells (.inl rfl)] at hmark
    simp at hmark
    omega
  · rw [← List.count_eq_zero, count_of_spells hspells (.inr rfl)] at hplus
    simp at hplus

/-- A plus sign stands for a digit, and the second number sign is skipped. -/
theorem parseRgb_wider :
    (parseRgb "+12345" = some 0xFF012345 ∧ ∀ color, ¬Written "+12345" color) ∧
    (parseRgb "##abcdef" = some 0xFFABCDEF ∧ ∀ color, ¬Written "##abcdef" color) := by
  refine ⟨⟨by decide, fun color h => ?_⟩, by decide, fun color h => ?_⟩
  · exact h.plain.2 (by decide)
  · exact absurd h.plain.1 (by decide)

end Style

end Transit
