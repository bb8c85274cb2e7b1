import Mathlib.Data.String.Basic
import Transit.Proofs.Text.Search

/-! # Texts by the offsets of bytes

A place in a text is also told by the number of bytes before it. Two offsets enclose a slice only if
they are in order, not beyond the end, and at boundaries of characters; otherwise the slice fails.
Letters of either case have the same length, so an offset that was found in a copy in small letters
is a place of the text itself.
-/
namespace Transit.Text

open String (utf8Len)

variable {mark spelled cs before behind rest : List Char} {p : Char → Bool}
  {q : List Char → Bool}

/-- Why there is no slice between two offsets, or no difference between them. -/
inductive SliceError
  | crossed (start stop : Nat)
  | beyond (offset : Nat)
  | inside (offset : Nat)
deriving DecidableEq

abbrev Sliced (α : Type) := Except SliceError α

def boundary (cs : List Char) (offset : Nat) : Sliced Unit :=
  if utf8Len cs < offset then .error (.beyond offset)
  else if String.Pos.Raw.IsValid (String.ofList cs) ⟨offset⟩ then .ok ()
  else .error (.inside offset)

def slice (cs : List Char) (start stop : Nat) : Sliced (List Char) :=
  if stop < start then .error (.crossed start stop)
  else do
    boundary cs start
    boundary cs stop
    return (String.Pos.Raw.extract (String.ofList cs) ⟨start⟩ ⟨stop⟩).toList

def sliceFrom (cs : List Char) (start : Nat) : Sliced (List Char) := slice cs start (utf8Len cs)

def sliceTo (cs : List Char) (stop : Nat) : Sliced (List Char) := slice cs 0 stop

/-- A difference of lengths, which must not be negative. -/
def lengthLess (length less : Nat) : Sliced Nat :=
  if less ≤ length then .ok (length - less) else .error (.crossed less length)

theorem isValid_iff {text : String} {offset : Nat} : String.Pos.Raw.IsValid text ⟨offset⟩ ↔
    ∃ before behind, text.toList = before ++ behind ∧ offset = utf8Len before := by
  rw [String.Pos.Raw.isValid_iff_exists_append]
  constructor
  · rintro ⟨before, behind, rfl, hoffset⟩
    refine ⟨before.toList, behind.toList, String.toList_append, ?_⟩
    rw [String.utf8Len_toList]
    exact congrArg String.Pos.Raw.byteIdx hoffset
  · rintro ⟨before, behind, htext, rfl⟩
    refine ⟨String.ofList before, String.ofList behind, ?_, by simp⟩
    rw [← String.ofList_append, ← htext, String.ofList_toList]

theorem boundary_append (before behind : List Char) :
    boundary (before ++ behind) (utf8Len before) = .ok () := by
  have hvalid : String.Pos.Raw.IsValid (String.ofList (before ++ behind)) ⟨utf8Len before⟩ :=
    isValid_iff.mpr ⟨before, behind, String.toList_ofList, rfl⟩
  rw [boundary, if_neg (by simp), if_pos hvalid]

theorem slice_append (before cs behind : List Char) :
    slice (before ++ (cs ++ behind)) (utf8Len before) (utf8Len before + utf8Len cs) = .ok cs := by
  have hstop : boundary (before ++ (cs ++ behind)) (utf8Len before + utf8Len cs) = .ok () := by
    rw [← List.append_assoc, ← String.utf8Len_append]
    exact boundary_append (before ++ cs) behind
  have hextract := String.extract_of_valid before cs behind
  rw [List.append_assoc] at hextract
  rw [slice, if_neg (by omega), boundary_append, hstop, hextract, String.toList_ofList]
  rfl

theorem sliceFrom_append (before cs : List Char) :
    sliceFrom (before ++ cs) (utf8Len before) = .ok cs := by
  have hslice := slice_append before cs []
  rwa [List.append_nil, ← String.utf8Len_append] at hslice

/-- Behind a character of one byte. -/
theorem sliceFrom_append_cons {c : Char} (hc : c.utf8Size = 1) (before rest : List Char) :
    sliceFrom (before ++ c :: rest) (utf8Len before + 1) = .ok rest := by
  have hslice := sliceFrom_append (before ++ [c]) rest
  rwa [String.utf8Len_append, String.utf8Len_cons, hc, String.utf8Len_nil, List.append_assoc,
    List.singleton_append] at hslice

theorem sliceTo_append (cs behind : List Char) : sliceTo (cs ++ behind) (utf8Len cs) = .ok cs := by
  have hslice := slice_append [] cs behind
  rwa [List.nil_append, String.utf8Len_nil, Nat.zero_add] at hslice

theorem lengthLess_append (before behind : List Char) :
    lengthLess (utf8Len (before ++ behind)) (utf8Len behind) = .ok (utf8Len before) := by
  rw [lengthLess, if_pos (by simp), String.utf8Len_append, Nat.add_sub_cancel]

theorem utf8Len_take_lt {m n : Nat} (hlt : m < n) (hn : n ≤ cs.length) :
    utf8Len (cs.take m) < utf8Len (cs.take n) := by
  have hlength := congrArg utf8Len (List.take_append_drop m (cs.take n))
  rw [String.utf8Len_append, List.take_take, Nat.min_eq_left (Nat.le_of_lt hlt)] at hlength
  have hsolid : (cs.take n).drop m ≠ [] :=
    List.ne_nil_of_length_pos (by rw [List.length_drop, List.length_take]; omega)
  have hpositive := mt String.utf8Len_eq_zero.mp hsolid
  omega

/-- Places are in the order of their offsets. -/
theorem utf8Len_take_le_iff {m n : Nat} (hm : m ≤ cs.length) (hn : n ≤ cs.length) :
    utf8Len (cs.take m) ≤ utf8Len (cs.take n) ↔ m ≤ n := by
  constructor
  · intro hle
    by_contra hgt
    have hlt := utf8Len_take_lt (Nat.lt_of_not_le hgt) hm
    omega
  · intro hle
    rcases Nat.eq_or_lt_of_le hle with rfl | hlt
    · exact Nat.le_refl _
    · exact Nat.le_of_lt (utf8Len_take_lt hlt hn)

/-! ## Offsets of what is found -/

/-- Before and behind the first place from which the text is as wanted. -/
def firstPlace? (q : List Char → Bool) : List Char → Option (List Char × List Char)
  | [] => if q [] then some ([], []) else none
  | c :: cs =>
    if q (c :: cs) then some ([], c :: cs)
    else (firstPlace? q cs).map fun place => (c :: place.1, place.2)

/-- The offset of the first place where a text stands. -/
def find? (mark cs : List Char) : Option Nat :=
  (firstPlace? (mark.isPrefixOf ·) cs).map fun place => utf8Len place.1

/-- The offset of the first character that satisfies `p`. -/
def findWhere? (p : Char → Bool) (cs : List Char) : Option Nat :=
  (splitAt? p cs).map fun parts => utf8Len parts.1

theorem eq_append_of_firstPlace? (h : firstPlace? q cs = some (before, rest)) :
    cs = before ++ rest ∧ q rest = true := by
  induction cs generalizing before with
  | nil =>
    rw [firstPlace?] at h
    split at h
    · rename_i hq
      cases h
      exact ⟨rfl, hq⟩
    · cases h
  | cons c cs ih =>
    rw [firstPlace?] at h
    split at h
    · rename_i hq
      cases h
      exact ⟨rfl, hq⟩
    · obtain ⟨⟨front, behind⟩, hplace, heq⟩ := Option.map_eq_some_iff.mp h
      cases heq
      obtain ⟨rfl, hq⟩ := ih hplace
      exact ⟨rfl, hq⟩

theorem afterFold?_eq (mark cs : List Char) : afterFold? mark cs =
    (firstPlace? (startsFold mark) cs).map fun place => place.2.drop mark.length := by
  induction cs with
  | nil => cases mark <;> rfl
  | cons c cs ih =>
    rw [afterFold?, firstPlace?]
    split
    · rfl
    · rw [ih, Option.map_map]
      rfl

theorem findWhere?_eq_none (h : splitAt? p cs = none) : findWhere? p cs = none := by
  rw [findWhere?, h, Option.map_none]

theorem findWhere?_eq_some (h : splitAt? p cs = some (before, behind)) :
    findWhere? p cs = some (utf8Len before) := by
  rw [findWhere?, h, Option.map_some]

/-- The first part goes up to the character, or to the end of a text without one. -/
theorem utf8Len_takeWhile (p : Char → Bool) (cs : List Char) :
    utf8Len (cs.takeWhile (!p ·)) = (findWhere? p cs).getD (utf8Len cs) := by
  have hparts : cs.takeWhile (!p ·) ++ cs.dropWhile (!p ·) = cs := List.takeWhile_append_dropWhile
  rw [findWhere?, splitAt?, List.span_eq_takeWhile_dropWhile]
  cases hdrop : cs.dropWhile (!p ·) with
  | nil =>
    rw [hdrop, List.append_nil] at hparts
    rw [hparts]
    rfl
  | cons => rfl

/-! ## Small letters -/

/-- The text with small letters instead of capitals. -/
def lowered (cs : List Char) : List Char := cs.map Char.toLower

theorem lowered_nil : lowered [] = [] := rfl

theorem lowered_cons (c : Char) (cs : List Char) : lowered (c :: cs) = c.toLower :: lowered cs :=
  rfl

theorem lowered_append (cs rest : List Char) :
    lowered (cs ++ rest) = lowered cs ++ lowered rest := List.map_append

theorem utf8Size_toLower (c : Char) : c.toLower.utf8Size = c.utf8Size := by
  by_cases hc : 65 ≤ c.toNat ∧ c.toNat ≤ 90
  · have hall : ∀ n < 26, (Char.ofNat (65 + n)).toLower.utf8Size =
        (Char.ofNat (65 + n)).utf8Size := by decide
    obtain ⟨n, hn, rfl⟩ := exists_capital hc
    exact hall n hn
  · rw [toLower_of_not_capital hc]

@[simp] theorem utf8Len_lowered (cs : List Char) : utf8Len (lowered cs) = utf8Len cs := by
  induction cs with
  | nil => rfl
  | cons c cs ih =>
    rw [lowered_cons, String.utf8Len_cons, String.utf8Len_cons, utf8Size_toLower, ih]

theorem spells_iff_lowered : Spells mark spelled ↔ lowered mark = lowered spelled := by
  rw [lowered, lowered, ← List.forall₂_eq_eq_eq, List.forall₂_map_left_iff,
    List.forall₂_map_right_iff]
  simp only [Spells, sameLetter, beq_iff_eq]

theorem Spells.utf8Len_eq (h : Spells mark spelled) : utf8Len spelled = utf8Len mark := by
  rw [← utf8Len_lowered, ← spells_iff_lowered.mp h, utf8Len_lowered]

theorem isPrefixOf_lowered (hmark : lowered mark = mark) (cs : List Char) :
    mark.isPrefixOf (lowered cs) = startsFold mark cs := by
  induction mark generalizing cs with
  | nil => rw [startsFold, List.isPrefixOf_nil_left]
  | cons m mark ih =>
    obtain ⟨hm, hmark⟩ := List.cons.inj hmark
    cases cs with
    | nil => rfl
    | cons c cs =>
      rw [startsFold, sameLetter, hm, ← ih hmark]
      rfl

theorem firstPlace?_lowered (q : List Char → Bool) (cs : List Char) :
    firstPlace? q (lowered cs) =
      (firstPlace? (fun rest => q (lowered rest)) cs).map fun place =>
        (lowered place.1, lowered place.2) := by
  induction cs with
  | nil =>
    rw [lowered_nil, firstPlace?, firstPlace?, lowered_nil]
    split <;> rfl
  | cons c cs ih =>
    rw [firstPlace?, lowered_cons, firstPlace?, ih]
    split
    · rfl
    · rw [Option.map_map, Option.map_map]
      rfl

theorem sliceFrom_lowered (before rest : List Char) :
    sliceFrom (lowered (before ++ rest)) (utf8Len before) = .ok (lowered rest) := by
  rw [lowered_append, ← utf8Len_lowered before]
  exact sliceFrom_append (lowered before) (lowered rest)

theorem sliceFrom_lowered_cons {c : Char} (hc : c.utf8Size = 1) (before rest : List Char) :
    sliceFrom (lowered (before ++ c :: rest)) (utf8Len before + 1) = .ok (lowered rest) := by
  rw [lowered_append, lowered_cons, ← utf8Len_lowered before]
  exact sliceFrom_append_cons ((utf8Size_toLower c).trans hc) (lowered before) (lowered rest)

theorem sliceTo_lowered (cs behind : List Char) :
    sliceTo (lowered (cs ++ behind)) (utf8Len cs) = .ok (lowered cs) := by
  rw [lowered_append, ← utf8Len_lowered cs]
  exact sliceTo_append (lowered cs) (lowered behind)

theorem slice_lowered (before cs behind : List Char) :
    slice (lowered (before ++ (cs ++ behind))) (utf8Len before) (utf8Len before + utf8Len cs) =
      .ok (lowered cs) := by
  rw [lowered_append, lowered_append, ← utf8Len_lowered before, ← utf8Len_lowered cs]
  exact slice_append (lowered before) (lowered cs) (lowered behind)

/-- A word is found in the copy where one of its spellings is in the text. -/
theorem find?_lowered (hmark : lowered mark = mark) (cs : List Char) :
    find? mark (lowered cs) =
      (firstPlace? (startsFold mark) cs).map fun place => utf8Len place.1 := by
  rw [find?, firstPlace?_lowered]
  simp only [isPrefixOf_lowered hmark, Option.map_map]
  congr 1
  funext place
  exact utf8Len_lowered place.1

theorem isSome_find?_lowered (hmark : lowered mark = mark) (cs : List Char) :
    (find? mark (lowered cs)).isSome = containsFold mark cs := by
  rw [find?_lowered hmark, containsFold, afterFold?_eq, Option.isSome_map, Option.isSome_map]

/-- What is found in the copy is found in the text, with the same parts before and behind it. -/
theorem find?_lowered_cases (hmark : lowered mark = mark) (cs : List Char) :
    (find? mark (lowered cs) = none ∧ afterFold? mark cs = none) ∨
      ∃ before spelled rest, Spells mark spelled ∧ cs = before ++ (spelled ++ rest) ∧
        find? mark (lowered cs) = some (utf8Len before) ∧ afterFold? mark cs = some rest := by
  rw [find?_lowered hmark, afterFold?_eq]
  cases hplace : firstPlace? (startsFold mark) cs with
  | none => exact .inl ⟨rfl, rfl⟩
  | some place =>
    obtain ⟨before, found⟩ := place
    obtain ⟨rfl, hstarts⟩ := eq_append_of_firstPlace? hplace
    obtain ⟨spelled, rest, hspells, rfl⟩ := startsFold_iff.mp hstarts
    refine .inr ⟨before, spelled, rest, hspells, rfl, rfl, ?_⟩
    rw [Option.map_some, hspells.length_eq, List.drop_left]

theorem Caseless.comp_toLower (hp : Caseless p) : p ∘ Char.toLower = p := funext hp

theorem splitAt?_lowered (hp : Caseless p) (cs : List Char) : splitAt? p (lowered cs) =
    (splitAt? p cs).map fun parts => (lowered parts.1, lowered parts.2) := by
  have hnot : (fun c => !p c) ∘ Char.toLower = fun c => !p c := funext fun c => by simp [hp c]
  simp only [splitAt?, List.span_eq_takeWhile_dropWhile, lowered, List.takeWhile_map,
    List.dropWhile_map, hnot]
  cases cs.dropWhile fun c => !p c <;> rfl

theorem findWhere?_lowered (hp : Caseless p) (cs : List Char) :
    findWhere? p (lowered cs) = findWhere? p cs := by
  rw [findWhere?, splitAt?_lowered hp, Option.map_map, findWhere?]
  congr 1
  funext parts
  exact utf8Len_lowered parts.1

theorem stripStart_lowered (cs : List Char) :
    stripStart (lowered cs) = lowered (stripStart cs) := by
  rw [stripStart, lowered, List.dropWhile_map, caseless_isBlank.comp_toLower]
  rfl

theorem strip_lowered_eq_nil_iff : strip (lowered cs) = [] ↔ strip cs = [] := by
  rw [strip_eq_nil_iff, strip_eq_nil_iff, lowered, List.forall_mem_map]
  exact forall₂_congr fun c _ => by rw [caseless_isBlank c]

end Transit.Text
