import Mathlib.Data.List.Forall2
import Mathlib.Data.List.TakeDrop
import Mathlib.Data.List.TakeWhile
import Mathlib.Tactic.IntervalCases
import Transit.Text

/-! # Searching in texts

What the searches find in a text that is put together from parts. The case of ASCII letters does not
count, so a word may be spelled in many ways, but in no spelling it has other blanks, quotes or
brackets than the word itself.
-/
namespace Transit.Text

variable {m x : Char} {mark cs word spelled before behind rest new : List Char} {p : Char → Bool}

/-- The text is the word, up to the case of ASCII letters. -/
abbrev Spells (word spelled : List Char) : Prop :=
  List.Forall₂ (fun a b => sameLetter a b = true) word spelled

/-- The word stands in the text, up to the case of ASCII letters. -/
def Mentions (word cs : List Char) : Prop :=
  ∃ before spelled behind, Spells word spelled ∧ cs = before ++ (spelled ++ behind)

/-- The case of a letter makes no difference. -/
def Caseless (p : Char → Bool) : Prop := ∀ c : Char, p c.toLower = p c

theorem toLower_capital : ∀ n < 26, (Char.ofNat (65 + n)).toLower = Char.ofNat (97 + n) := by decide

theorem toLower_of_not_capital {c : Char} (h : ¬(65 ≤ c.toNat ∧ c.toNat ≤ 90)) :
    c.toLower = c := by
  refine dif_neg ?_
  rintro ⟨hleast, hmost⟩
  exact h ⟨UInt32.le_iff_toNat_le.mp hleast, UInt32.le_iff_toNat_le.mp hmost⟩

theorem exists_capital {c : Char} (h : 65 ≤ c.toNat ∧ c.toNat ≤ 90) :
    ∃ n < 26, c = Char.ofNat (65 + n) := by
  obtain ⟨n, hn⟩ := Nat.exists_eq_add_of_le h.1
  exact ⟨n, by omega, by rw [← hn, Char.ofNat_toNat]⟩

/-- A class has only to agree on the 26 letters and their capitals. -/
theorem caseless_of_letters (h : ∀ n < 26, p (Char.ofNat (97 + n)) = p (Char.ofNat (65 + n))) :
    Caseless p := by
  intro c
  by_cases hc : 65 ≤ c.toNat ∧ c.toNat ≤ 90
  · obtain ⟨n, hn, rfl⟩ := exists_capital hc
    rw [toLower_capital n hn, h n hn]
  · rw [toLower_of_not_capital hc]

theorem caseless_isBlank : Caseless isBlank := caseless_of_letters (by decide)

theorem caseless_sameLetter (m : Char) : Caseless (sameLetter m) := by
  refine caseless_of_letters fun n hn => ?_
  have hsmall : (Char.ofNat (97 + n)).toLower = Char.ofNat (97 + n) :=
    toLower_of_not_capital (by interval_cases n <;> decide)
  rw [sameLetter, sameLetter, toLower_capital n hn, hsmall]

theorem Caseless.eq_of_sameLetter {a b : Char} (hp : Caseless p) (h : sameLetter a b = true) :
    p a = p b := by
  have hlower : a.toLower = b.toLower := by simpa [sameLetter] using h
  rw [← hp a, hlower, hp b]

theorem Spells.any_eq (hp : Caseless p) (h : Spells word spelled) : spelled.any p = word.any p := by
  induction h with
  | nil => rfl
  | cons hab _ ih => rw [List.any_cons, List.any_cons, ih, hp.eq_of_sameLetter hab]

/-- What none of a word satisfies, none of its spellings does. -/
theorem Spells.none (hp : Caseless p) (h : Spells word spelled) (hword : word.any p = false) :
    ∀ c ∈ spelled, p c = false := by
  rw [← h.any_eq hp] at hword
  simpa using hword

theorem startsFold_iff :
    startsFold mark cs = true ↔ ∃ spelled rest, Spells mark spelled ∧ cs = spelled ++ rest := by
  induction mark generalizing cs with
  | nil => exact ⟨fun _ => ⟨[], cs, .nil, rfl⟩, fun _ => by rw [startsFold]⟩
  | cons m mark ih =>
    cases cs with
    | nil =>
      constructor
      · exact nofun
      · rintro ⟨spelled, rest, hspells, hcs⟩
        cases hspells
        cases hcs
    | cons c cs =>
      rw [startsFold, Bool.and_eq_true, ih]
      constructor
      · rintro ⟨hc, spelled, rest, hspells, rfl⟩
        exact ⟨c :: spelled, rest, .cons hc hspells, rfl⟩
      · rintro ⟨_, rest, hspells, hcs⟩
        cases hspells with
        | cons hc hspells =>
          obtain ⟨rfl, rfl⟩ := List.cons.inj hcs
          exact ⟨hc, _, rest, hspells, rfl⟩

theorem spells_iff :
    Spells word spelled ↔ word.length = spelled.length ∧ startsFold word spelled = true := by
  refine ⟨fun h => ⟨h.length_eq, startsFold_iff.mpr ⟨spelled, [], h, by simp⟩⟩, ?_⟩
  rintro ⟨hlength, hstarts⟩
  obtain ⟨start, rest, hspells, rfl⟩ := startsFold_iff.mp hstarts
  have hrest : rest = [] := by
    have := hspells.length_eq
    rw [List.length_append] at hlength
    exact List.length_eq_zero_iff.mp (by omega)
  rwa [hrest, List.append_nil]

instance : Decidable (Spells word spelled) := decidable_of_iff _ spells_iff.symm

theorem Spells.startsFold (h : Spells mark spelled) (rest : List Char) :
    startsFold mark (spelled ++ rest) = true := startsFold_iff.mpr ⟨spelled, rest, h, rfl⟩

/-- A mark is not found across a character that it does not have. -/
theorem startsFold_append_cons (h : mark.any (sameLetter · x) = false) (cs rest : List Char) :
    Text.startsFold mark (cs ++ x :: rest) = Text.startsFold mark cs := by
  induction mark generalizing cs with
  | nil => rw [Text.startsFold, Text.startsFold]
  | cons m mark ih =>
    rw [List.any_cons, Bool.or_eq_false_iff] at h
    obtain ⟨hm, hmark⟩ := h
    cases cs with
    | nil =>
      rw [List.nil_append, Text.startsFold.eq_def]
      simp only [hm, Bool.false_and, Text.startsFold]
    | cons c cs => rw [List.cons_append, Text.startsFold, Text.startsFold, ih hmark]

/-- A mark is found where it stands behind a text that does not have its first character. -/
theorem afterFold?_append (hbefore : ∀ c ∈ before, sameLetter m c = false)
    (h : Spells (m :: mark) spelled) (rest : List Char) :
    afterFold? (m :: mark) (before ++ (spelled ++ rest)) = some rest := by
  induction before with
  | nil =>
    have hdrop : (spelled ++ rest).drop (m :: mark).length = rest := by
      rw [h.length_eq, List.drop_left]
    have hstarts := h.startsFold rest
    cases h with
    | cons hc hspells =>
      rw [List.nil_append, List.cons_append, afterFold?, ← List.cons_append, if_pos hstarts, hdrop]
  | cons c before ih =>
    obtain ⟨hc, hbefore⟩ := List.forall_mem_cons.mp hbefore
    rw [List.cons_append, afterFold?, Text.startsFold, hc, Bool.false_and,
      if_neg Bool.false_ne_true, ih hbefore]

theorem containsFold_append (h : Spells mark spelled) (before rest : List Char) :
    containsFold mark (before ++ (spelled ++ rest)) = true := by
  induction before with
  | nil =>
    rw [List.nil_append, containsFold]
    cases h with
    | nil => cases rest <;> rfl
    | cons hc hspells =>
      have hstarts := Spells.startsFold (.cons hc hspells) rest
      rw [List.cons_append] at hstarts ⊢
      rw [afterFold?, if_pos hstarts, Option.isSome_some]
  | cons c before ih =>
    rw [List.cons_append, containsFold, afterFold?]
    split
    · rfl
    · exact ih

theorem containsFold_iff : containsFold word cs = true ↔ Mentions word cs := by
  constructor
  · intro h
    induction cs with
    | nil =>
      cases word with
      | nil => exact ⟨[], [], [], .nil, rfl⟩
      | cons => cases h
    | cons c cs ih =>
      rw [containsFold, afterFold?] at h
      split at h
      · rename_i hstarts
        obtain ⟨spelled, behind, hspells, hcs⟩ := startsFold_iff.mp hstarts
        exact ⟨[], spelled, behind, hspells, hcs⟩
      · obtain ⟨before, spelled, behind, hspells, rfl⟩ := ih h
        exact ⟨c :: before, spelled, behind, hspells, rfl⟩
  · rintro ⟨before, spelled, behind, hspells, rfl⟩
    exact containsFold_append hspells before behind

instance : Decidable (Mentions word cs) := decidable_of_iff _ containsFold_iff

theorem splitAt?_append (hbefore : ∀ c ∈ before, p c = false) (hx : p x = true)
    (behind : List Char) : splitAt? p (before ++ x :: behind) = some (before, behind) := by
  have hpassed : ∀ c ∈ before, (!p c) = true := by simpa using hbefore
  have hstop : ¬(!p x) = true := by simp [hx]
  have htake : (before ++ x :: behind).takeWhile (fun c => !p c) = before := by
    rw [List.takeWhile_append_of_pos hpassed,
      List.takeWhile_cons_of_neg (p := fun c => !p c) hstop, List.append_nil]
  have hdrop : (before ++ x :: behind).dropWhile (fun c => !p c) = x :: behind := by
    rw [List.dropWhile_append_of_pos hpassed, List.dropWhile_cons_of_neg (p := fun c => !p c) hstop]
  rw [splitAt?, List.span_eq_takeWhile_dropWhile, htake, hdrop]

theorem splitAt?_eq_some_iff : splitAt? p cs = some (before, behind) ↔
    ∃ x, p x = true ∧ (∀ c ∈ before, p c = false) ∧ cs = before ++ x :: behind := by
  constructor
  · intro h
    have hparts : cs.takeWhile (!p ·) ++ cs.dropWhile (!p ·) = cs :=
      List.takeWhile_append_dropWhile
    have hstop := List.head?_dropWhile_not (!p ·) cs
    rw [splitAt?, List.span_eq_takeWhile_dropWhile] at h
    cases hdrop : cs.dropWhile (!p ·) with
    | nil =>
      rw [hdrop] at h
      cases h
    | cons x rest =>
      rw [hdrop] at h hparts hstop
      cases h
      exact ⟨x, by simpa using hstop, fun c hc => by simpa using List.mem_takeWhile_imp hc,
        hparts.symm⟩
  · rintro ⟨x, hx, hbefore, rfl⟩
    exact splitAt?_append hbefore hx behind

theorem dropWhile_eq_self (h : ∀ c ∈ cs, p c = false) : cs.dropWhile p = cs :=
  List.dropWhile_eq_self_iff.mpr fun _ => by simp [h]

theorem dropEndWhile_eq_self (h : ∀ c ∈ cs, p c = false) : dropEndWhile p cs = cs := by
  rw [dropEndWhile, dropWhile_eq_self fun c hc => h c (List.mem_reverse.mp hc),
    List.reverse_reverse]

theorem strip_eq_nil_iff : strip cs = [] ↔ ∀ c ∈ cs, isBlank c = true := by
  have hend (xs : List Char) : stripEnd xs = [] ↔ ∀ c ∈ xs, isBlank c = true := by
    rw [stripEnd, dropEndWhile, List.reverse_eq_nil_iff, List.dropWhile_eq_nil_iff]
    simp only [List.mem_reverse]
  rw [strip, hend, stripStart]
  constructor
  · intro h
    by_contra hcs
    have hne : cs.dropWhile isBlank ≠ [] := mt List.dropWhile_eq_nil_iff.mp hcs
    exact Bool.false_ne_true
      ((List.head_dropWhile_not isBlank hne).symm.trans (h _ (List.head_mem hne)))
  · exact fun h c hc => h c ((List.dropWhile_sublist _).subset hc)

theorem stripStart_cons {c : Char} (h : isBlank c = false) (cs : List Char) :
    stripStart (c :: cs) = c :: cs := by
  rw [stripStart, List.dropWhile_cons_of_neg (by simp [h])]

theorem stripStart_append {c : Char} (hgap : ∀ x ∈ before, isBlank x = true)
    (hc : isBlank c = false) (rest : List Char) :
    stripStart (before ++ c :: rest) = c :: rest := by
  rw [stripStart, List.dropWhile_append_of_pos hgap]
  exact stripStart_cons hc rest

theorem exists_gap_of_stripStart (cs : List Char) :
    ∃ gap, (∀ c ∈ gap, isBlank c = true) ∧ cs = gap ++ stripStart cs :=
  ⟨cs.takeWhile isBlank, fun _ => List.mem_takeWhile_imp, List.takeWhile_append_dropWhile.symm⟩

theorem replaceAll_ne_nil (hnew : new ≠ []) (h : cs ≠ []) : replaceAll mark new cs ≠ [] := by
  cases cs with
  | nil => exact absurd rfl h
  | cons c cs =>
    rw [replaceAll]
    split
    · exact List.append_ne_nil_of_left_ne_nil hnew _
    · exact List.cons_ne_nil _ _

end Transit.Text
