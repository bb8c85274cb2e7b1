import Transit.Proofs.Text.Bytes
import Transit.Proofs.Text.Slice
import Transit.Proofs.Triage.Refresh
import Transit.Proofs.Triage.Script

/-! # Scanning pages by the offsets of bytes

The scan for a redirect is written here once more, with offsets of bytes: they are found in a copy
in small letters and in slices of it, added up, and applied to the page. No slice fails on any page,
the loop over the tags always goes on behind the place where it was, and the class of the page is
the one that comes from texts without offsets.
-/
namespace Transit.Triage.Offsets

open String (utf8Len)
open Text (Sliced slice sliceFrom sliceTo lengthLess find? findWhere? lowered isBlank)

/-! ## Tags -/

/-- Where a value stands that begins at an offset: within quotes, or up to a blank. -/
def enclosed (value : List Char) (start : Nat) : Sliced (Option (Nat × Nat)) :=
  match value with
  | [] => return none
  | c :: _ =>
    if isQuote c then do
      let inside ← sliceFrom value 1
      return (findWhere? (· == c) inside).map fun close => (start + 1, start + 1 + close)
    else return some (start, start + (findWhere? isBlank value).getD (utf8Len value))

/-- Where the value of an attribute stands in a tag, given where its name ends. -/
def valueRange (tag : List Char) (afterName : Nat) : Sliced (Option (Nat × Nat)) := do
  let rest ← sliceFrom tag afterName
  match findWhere? (· == '=') rest with
  | none => return none
  | some sign =>
    let gap ← sliceTo rest sign
    if Text.strip gap ≠ [] then return none
    else
      let value ← sliceFrom rest (sign + 1)
      let skipped ← lengthLess (utf8Len value) (utf8Len (Text.stripStart value))
      let start := afterName + sign + 1 + skipped
      enclosed (← sliceFrom tag start) start

/-- Where the target stands in a tag in small letters, if it is a refresh with a target. -/
def targetRange (tag : List Char) : Sliced (Option (Nat × Nat)) :=
  if (find? "http-equiv".toList tag).isSome && (find? "refresh".toList tag).isSome then
    match find? "content".toList tag with
    | none => return none
    | some name => do
      match ← valueRange tag (name + utf8Len "content".toList) with
      | none => return none
      | some (start, stop) =>
        let value ← slice tag start stop
        return (find? "url=".toList value).map fun address =>
          (start + address + utf8Len "url=".toList, stop)
  else return none

/-- How a round of the loop over the tags ends. -/
inductive Round
  | over (target : Option (List Char))
  | onward (start : Nat)
deriving DecidableEq

/-- The next tag behind an offset of the page. -/
def round (body : List Char) (start : Nat) : Sliced Round := do
  let ahead ← sliceFrom (lowered body) start
  match find? metaMark ahead with
  | none => return .over none
  | some offset =>
    let first := start + offset
    let fromTag ← sliceFrom (lowered body) first
    let last := match findWhere? isTagEnd fromTag with
      | some length => first + length
      | none => utf8Len (lowered body)
    let tag ← slice (lowered body) first last
    match ← targetRange tag with
    | none => return .onward last
    | some (begins, ends) =>
      let target ← slice body (first + begins) (first + ends)
      return .over (some (unquote (Text.strip target)))

/-- The loop over the tags, which is not over yet after too few rounds. -/
def metaTarget (body : List Char) : Nat → Nat → Sliced (Option (Option (List Char)))
  | 0, _ => return none
  | rounds + 1, start => do
    match ← round body start with
    | .over target => return some target
    | .onward next => metaTarget body rounds next

/-! ## Scripts -/

def assigned (body : List Char) (place : Nat) : Sliced (Option (List Char)) := do
  let rest ← sliceFrom body place
  match Text.stripStart rest with
  | [] => return none
  | c :: rest =>
    if c == '=' || c == '(' then
      let rest := Text.stripStart rest
      match rest with
      | [] => return none
      | quote :: _ =>
        if isQuote quote then
          let inside ← sliceFrom rest 1
          match findWhere? (· == quote) inside with
          | none => return none
          | some close => return some (← sliceTo inside close)
        else return none
    else return none

def scriptTarget (body : List Char) : List Nat → Sliced (Option (List Char))
  | [] => return none
  | place :: places => do
    match ← assigned body place with
    | some target => return some target
    | none => scriptTarget body places

/-! ## Pages -/

/-- Where a target leads, if it is one. -/
def follow? (requested : Url) (target : List Char) : Option Url :=
  let target := Text.replaceAll "&amp;".toList ['&'] (Text.strip target)
  if target.isEmpty then none else requested.join? (String.ofList target)

/-- The class of a page, unless so many rounds of the loop over its tags are too few. The marks of
scripts end at the places. -/
def classify (t : Triage) (body : List Char) (requested : Url) (places : List Nat)
    (rounds : Nat) : Sliced (Option ResponseClass) := do
  match ← metaTarget body rounds 0 with
  | none => return none
  | some tag =>
    let target ← match tag with
      | some target => pure (some target)
      | none => scriptTarget body places
    return some <| match target.bind (follow? requested) with
      | some url => .redirect url
      | none =>
        if t.isExpired body then .sessionExpired
        else if t.isInternal body then .internalError
        else .normal

variable {before rest tag body cs : List Char} {c : Char} {places ends : List Nat}

/-! ## Tags read by offsets -/

/-- A text stands between two offsets of a tag, or there is none of both. -/
inductive Stands (tag : List Char) : Option (List Char) → Option (Nat × Nat) → Prop
  | neither : Stands tag none none
  | between {before value behind : List Char} {start stop : Nat} :
      tag = before ++ (value ++ behind) → start = utf8Len before → stop = start + utf8Len value →
      Stands tag (some value) (some (start, stop))

/-- What stands in a tag stands behind whatever is before the tag. -/
theorem Stands.slice_eq {value : List Char} {start stop : Nat}
    (h : Stands tag (some value) (some (start, stop))) (before behind : List Char) :
    slice (before ++ (tag ++ behind)) (utf8Len before + start) (utf8Len before + stop) =
      .ok value := by
  cases h with
  | @between front _ inner _ _ htag hstart hstop =>
    have hpage : before ++ (tag ++ behind) = (before ++ front) ++ (value ++ (inner ++ behind)) := by
      rw [htag]
      simp only [List.append_assoc]
    rw [hpage, hstop, hstart, ← Nat.add_assoc, ← String.utf8Len_append]
    exact Text.slice_append (before ++ front) value (inner ++ behind)

theorem toLower_quote (hc : isQuote c = true) : c.toLower = c := by
  rcases isQuote_iff.mp hc with rfl | rfl <;> decide

theorem caseless_quote (hc : isQuote c = true) : Text.Caseless (· == c) := by
  rcases isQuote_iff.mp hc with rfl | rfl <;> exact Text.caseless_of_letters (by decide)

theorem utf8Size_quote (hc : isQuote c = true) : c.utf8Size = 1 := by
  rcases isQuote_iff.mp hc with rfl | rfl <;> rfl

theorem enclosed_eq (before cs : List Char) :
    ∃ range, enclosed (lowered cs) (utf8Len before) = .ok range ∧
      Stands (before ++ cs) (match cs with
        | [] => none
        | c :: cs =>
          if isQuote c then (Text.splitAt? (· == c) cs).map Prod.fst
          else some ((c :: cs).takeWhile (!isBlank ·))) range := by
  cases cs with
  | nil => exact ⟨none, rfl, .neither⟩
  | cons c cs =>
    rw [Text.lowered_cons, enclosed, caseless_isQuote c]
    dsimp only
    by_cases hquote : isQuote c = true
    · have hinside : sliceFrom (lowered (c :: cs)) 1 = .ok (lowered cs) :=
        Text.sliceFrom_lowered_cons (utf8Size_quote hquote) [] cs
      rw [if_pos hquote, if_pos hquote, ← Text.lowered_cons, hinside, toLower_quote hquote]
      dsimp only [bind, Except.bind]
      rw [Text.findWhere?_lowered (caseless_quote hquote)]
      cases hsplit : Text.splitAt? (· == c) cs with
      | none =>
        rw [Text.findWhere?_eq_none hsplit]
        exact ⟨none, rfl, .neither⟩
      | some parts =>
        obtain ⟨value, behind⟩ := parts
        obtain ⟨x, -, -, rfl⟩ := Text.splitAt?_eq_some_iff.mp hsplit
        rw [Text.findWhere?_eq_some hsplit]
        have hstart : utf8Len before + 1 = utf8Len (before ++ [c]) := by
          simp [utf8Size_quote hquote]
        have htag : before ++ c :: (value ++ x :: behind) =
            (before ++ [c]) ++ (value ++ x :: behind) := by simp
        exact ⟨_, rfl, .between htag hstart rfl⟩
    · rw [if_neg hquote, if_neg hquote, ← Text.lowered_cons, Text.findWhere?_lowered
        Text.caseless_isBlank, Text.utf8Len_lowered, ← Text.utf8Len_takeWhile]
      exact ⟨_, rfl, .between (by rw [List.takeWhile_append_dropWhile]) rfl rfl⟩

/-- The value of an attribute stands where it begins in the tag. -/
theorem valueRange_eq (before rest : List Char) :
    ∃ range, valueRange (lowered (before ++ rest)) (utf8Len before) = .ok range ∧
      Stands (before ++ rest) (attributeValue? rest) range := by
  have hsign : Text.Caseless (· == '=') := Text.caseless_of_letters (by decide)
  rw [valueRange, Text.sliceFrom_lowered, attributeValue?]
  dsimp only [bind, Except.bind]
  rw [Text.findWhere?_lowered hsign]
  cases hsplit : Text.splitAt? (· == '=') rest with
  | none =>
    rw [Text.findWhere?_eq_none hsplit]
    exact ⟨none, rfl, .neither⟩
  | some parts =>
    obtain ⟨gap, behind⟩ := parts
    obtain ⟨x, hx, -, rfl⟩ := Text.splitAt?_eq_some_iff.mp hsplit
    obtain rfl := beq_iff_eq.mp hx
    rw [Text.findWhere?_eq_some hsplit]
    dsimp only
    rw [Text.sliceTo_lowered]
    dsimp only
    have hgap : Text.strip (lowered gap) = [] ↔ gap.all isBlank = true := by
      rw [Text.strip_lowered_eq_nil_iff, Text.strip_eq_nil_iff, List.all_eq_true]
    by_cases hblank : gap.all isBlank = true
    · obtain ⟨blanks, -, hbehind⟩ := Text.exists_gap_of_stripStart behind
      have hskipped : lengthLess (utf8Len behind) (utf8Len (Text.stripStart behind)) =
          .ok (utf8Len blanks) := by
        have hless := Text.lengthLess_append blanks (Text.stripStart behind)
        rwa [← hbehind] at hless
      have htag : before ++ (gap ++ '=' :: behind) =
          (before ++ (gap ++ '=' :: blanks)) ++ Text.stripStart behind := by
        rw [List.append_assoc, List.append_assoc, List.cons_append, ← hbehind]
      have hstart : utf8Len before + utf8Len gap + 1 + utf8Len blanks =
          utf8Len (before ++ (gap ++ '=' :: blanks)) := by
        have hsign : Char.utf8Size '=' = 1 := rfl
        simp only [String.utf8Len_append, String.utf8Len_cons, hsign]
        omega
      rw [if_neg (not_not_intro (hgap.mpr hblank)), Text.sliceFrom_lowered_cons rfl, hblank]
      dsimp only
      rw [Text.stripStart_lowered, Text.utf8Len_lowered, Text.utf8Len_lowered, hskipped]
      dsimp only
      rw [htag, hstart, Text.sliceFrom_lowered]
      exact enclosed_eq _ _
    · rw [if_pos (mt hgap.mp hblank), if_pos (by simpa using hblank)]
      exact ⟨none, rfl, .neither⟩

/-- What follows the address mark in a value goes up to the end of the value. -/
theorem address_stands {front value behind : List Char} (htag : tag = front ++ (value ++ behind)) :
    Stands tag (Text.afterFold? "url=".toList value)
      ((find? "url=".toList (lowered value)).map fun address =>
        (utf8Len front + address + utf8Len "url=".toList, utf8Len front + utf8Len value)) := by
  have hurl : lowered "url=".toList = "url=".toList := by decide
  rcases Text.find?_lowered_cases hurl value with
    ⟨hfind, hafter⟩ | ⟨lead, url, target, hword, rfl, hfind, hafter⟩
  · rw [hfind, hafter]
    exact .neither
  · have hlength := hword.utf8Len_eq
    rw [hfind, hafter]
    have htarget : tag = (front ++ (lead ++ url)) ++ (target ++ behind) := by
      rw [htag]
      simp only [List.append_assoc]
    have hstart : utf8Len front + utf8Len lead + utf8Len "url=".toList =
        utf8Len (front ++ (lead ++ url)) := by
      rw [String.utf8Len_append, String.utf8Len_append, hlength, Nat.add_assoc]
    refine .between htarget hstart ?_
    simp only [String.utf8Len_append]
    omega

/-- The target of a refresh is what stands in the tag, without blanks and quotes around it. -/
theorem targetRange_eq (tag : List Char) :
    ∃ range target, targetRange (lowered tag) = .ok range ∧ Stands tag target range ∧
      refreshTarget? tag = target.map fun target => unquote (Text.strip target) := by
  have hequiv : lowered "http-equiv".toList = "http-equiv".toList := by decide
  have hrefresh : lowered "refresh".toList = "refresh".toList := by decide
  have hcontent : lowered "content".toList = "content".toList := by decide
  rw [targetRange, refreshTarget?, Text.isSome_find?_lowered hequiv,
    Text.isSome_find?_lowered hrefresh]
  split
  · rcases Text.find?_lowered_cases hcontent tag with
      ⟨hfind, hafter⟩ | ⟨before, name, rest, hname, rfl, hfind, hafter⟩
    · rw [hfind, hafter]
      exact ⟨none, none, rfl, .neither, rfl⟩
    · obtain ⟨range, hrange, hstands⟩ := valueRange_eq (before ++ name) rest
      rw [List.append_assoc, String.utf8Len_append, hname.utf8Len_eq] at hrange
      rw [List.append_assoc] at hstands
      rw [hfind, hafter]
      dsimp only
      rw [hrange]
      generalize attributeValue? rest = value at hstands
      dsimp only [bind, Except.bind]
      cases hstands with
      | neither => exact ⟨none, none, rfl, .neither, rfl⟩
      | @between front value behind start stop htag hstart hstop =>
        subst hstart hstop
        have hslice : slice (lowered (before ++ (name ++ rest))) (utf8Len front)
            (utf8Len front + utf8Len value) = .ok (lowered value) := by
          rw [htag]
          exact Text.slice_lowered front value behind
        dsimp only
        rw [hslice]
        exact ⟨_, _, rfl, address_stands htag, rfl⟩
  · exact ⟨none, none, rfl, .neither, rfl⟩

/-! ## Rounds of the loop -/

theorem isTagEnd_opening (h : Text.startsFold metaMark (c :: cs) = true) : isTagEnd c = false := by
  rw [metaMark_eq, Text.startsFold, Bool.and_eq_true] at h
  rw [← caseless_isTagEnd.eq_of_sameLetter h.1]
  rfl

theorem metaTags_eq (cs : List Char) :
    metaTags cs = match Text.firstPlace? (Text.startsFold metaMark) cs with
      | none => []
      | some (_, rest) =>
        rest.takeWhile (!isTagEnd ·) :: metaTags (rest.dropWhile (!isTagEnd ·)) := by
  induction cs with
  | nil =>
    rw [metaTags]
    rfl
  | cons c cs ih =>
    rw [metaTags, Text.firstPlace?]
    split
    · rename_i hstarts
      have hopen : (!isTagEnd c) = true := by rw [isTagEnd_opening hstarts, Bool.not_false]
      dsimp only
      rw [List.takeWhile_cons_of_pos (p := (!isTagEnd ·)) hopen,
        List.dropWhile_cons_of_pos (p := (!isTagEnd ·)) hopen]
    · rw [ih]
      cases Text.firstPlace? (Text.startsFold metaMark) cs <;> rfl

/-- A tag ends at its bracket, or else with the page. -/
theorem tagEnd_eq (before found : List Char) :
    (match findWhere? isTagEnd (lowered found) with
      | some length => utf8Len before + length
      | none => utf8Len (lowered (before ++ found))) =
        utf8Len before + utf8Len (found.takeWhile (!isTagEnd ·)) := by
  rw [Text.findWhere?_lowered caseless_isTagEnd, Text.utf8Len_takeWhile, Text.utf8Len_lowered,
    String.utf8Len_append]
  cases findWhere? isTagEnd found <;> rfl

/-- What a round makes of a page that is read up to a place: it finds no tag, or a target in the
next one, or it goes on behind a tag without one. -/
inductive Proceeds (before rest : List Char) : Round → Prop
  | untagged : metaTags rest = [] → Proceeds before rest (.over none)
  | found {tag target : List Char} {tags : List (List Char)} : metaTags rest = tag :: tags →
      refreshTarget? tag = some target → Proceeds before rest (.over (some target))
  | passed {passed behind : List Char} : rest = passed ++ behind → passed ≠ [] →
      (metaTags rest).findSome? refreshTarget? = (metaTags behind).findSome? refreshTarget? →
      Proceeds before rest (.onward (utf8Len (before ++ passed)))

theorem round_proceeds (before rest : List Char) :
    ∃ r, round (before ++ rest) (utf8Len before) = .ok r ∧ Proceeds before rest r := by
  have hmark : lowered metaMark = metaMark := by decide
  rw [round, Text.sliceFrom_lowered]
  dsimp only [bind, Except.bind]
  rw [Text.find?_lowered hmark]
  have htags := metaTags_eq rest
  cases hplace : Text.firstPlace? (Text.startsFold metaMark) rest with
  | none =>
    rw [hplace] at htags
    exact ⟨_, rfl, .untagged htags⟩
  | some place =>
    obtain ⟨gap, found⟩ := place
    obtain ⟨rfl, hstarts⟩ := Text.eq_append_of_firstPlace? hplace
    rw [hplace] at htags
    dsimp only at htags
    rw [Option.map_some]
    dsimp only
    rw [← String.utf8Len_append, ← List.append_assoc, Text.sliceFrom_lowered]
    dsimp only
    rw [tagEnd_eq]
    have hparts : found.takeWhile (!isTagEnd ·) ++ found.dropWhile (!isTagEnd ·) = found :=
      List.takeWhile_append_dropWhile
    have hsolid : found.takeWhile (!isTagEnd ·) ≠ [] := by
      cases found with
      | nil => exact absurd hstarts (by decide)
      | cons c cs => simp [isTagEnd_opening hstarts]
    generalize found.takeWhile (!isTagEnd ·) = tag at *
    generalize found.dropWhile (!isTagEnd ·) = behind at *
    subst hparts
    rw [Text.slice_lowered]
    dsimp only
    obtain ⟨range, target, hrange, hstands, htarget⟩ := targetRange_eq tag
    rw [hrange]
    cases hstands with
    | neither =>
      have hpassed : gap ++ (tag ++ behind) = (gap ++ tag) ++ behind := by simp
      have hnext : utf8Len (before ++ gap) + utf8Len tag = utf8Len (before ++ (gap ++ tag)) := by
        simp only [String.utf8Len_append, Nat.add_assoc]
      refine ⟨_, rfl, hnext ▸ .passed hpassed (by simp [hsolid]) ?_⟩
      rw [htags, List.findSome?_cons, htarget]
      rfl
    | between htag hstart hstop =>
      have hslice := Stands.slice_eq (.between htag hstart hstop) (before ++ gap) behind
      dsimp only
      rw [hslice]
      exact ⟨_, rfl, .found htags htarget⟩

/-- So many rounds are enough as the page has bytes to go, and one more. -/
theorem metaTarget_eq (before rest : List Char) {rounds : Nat} (h : utf8Len rest < rounds) :
    metaTarget (before ++ rest) rounds (utf8Len before) =
      .ok (some ((metaTags rest).findSome? refreshTarget?)) := by
  -- Each round that goes on takes something off the rest, so the bound on the rest carries over.
  induction rounds generalizing before rest with
  | zero => omega
  | succ rounds ih =>
    obtain ⟨r, hround, hproceeds⟩ := round_proceeds before rest
    rw [metaTarget, hround]
    dsimp only [bind, Except.bind]
    cases hproceeds with
    | untagged htags =>
      rw [htags]
      rfl
    | found htags htarget =>
      rw [htags, List.findSome?_cons, htarget]
      rfl
    | @passed passed behind hrest hpassed hsame =>
      have hpositive : utf8Len passed ≠ 0 := mt String.utf8Len_eq_zero.mp hpassed
      have hlength := congrArg utf8Len hrest
      rw [String.utf8Len_append] at hlength
      rw [hsame, hrest, ← List.append_assoc]
      exact ih (before ++ passed) behind (by omega)

/-! ## Scripts read by offsets -/

theorem assigned_eq (before rest : List Char) :
    assigned (before ++ rest) (utf8Len before) = .ok (quotedTarget? rest) := by
  rw [assigned, Text.sliceFrom_append, quotedTarget?]
  dsimp only [bind, Except.bind]
  cases Text.stripStart rest with
  | nil => rfl
  | cons c rest =>
    dsimp only
    split
    · cases Text.stripStart rest with
      | nil => rfl
      | cons quote cs =>
        dsimp only
        split
        · rename_i hquote
          have hinside : sliceFrom (quote :: cs) 1 = .ok cs :=
            Text.sliceFrom_append_cons (utf8Size_quote hquote) [] cs
          rw [hinside]
          dsimp only
          cases hsplit : Text.splitAt? (· == quote) cs with
          | none =>
            rw [Text.findWhere?_eq_none hsplit]
            rfl
          | some parts =>
            obtain ⟨target, behind⟩ := parts
            obtain ⟨x, -, -, rfl⟩ := Text.splitAt?_eq_some_iff.mp hsplit
            rw [Text.findWhere?_eq_some hsplit]
            dsimp only
            rw [Text.sliceTo_append]
            rfl
        · rfl
    · rfl

/-- The offsets of places that are told by the number of characters before them. -/
def offsets (body : List Char) (places : List Nat) : List Nat :=
  places.map fun place => utf8Len (body.take place)

theorem scriptTarget_eq (body : List Char) (places : List Nat) :
    scriptTarget body (offsets body places) = .ok (targetAmong? body places) := by
  induction places with
  | nil => rfl
  | cons place places ih =>
    have hassigned : assigned body (utf8Len (body.take place)) =
        .ok (quotedTarget? (body.drop place)) := by
      have hparts := assigned_eq (body.take place) (body.drop place)
      rwa [List.take_append_drop] at hparts
    rw [offsets, List.map_cons, scriptTarget, hassigned, targetAmong?, List.findSome?_cons]
    dsimp only [bind, Except.bind]
    cases quotedTarget? (body.drop place) with
    | some target => rfl
    | none => exact ih

/-- The search for marks goes by bytes. It tells every offset where one ends, in order, and no
other. -/
structure Finds (text : List UInt8) (ends : List Nat) : Prop where
  sorted : ends.Pairwise (· ≤ ·)
  mem_iff : ∀ e, e ∈ ends ↔ ∃ mark ∈ scriptMarks, Text.EndsAmong text (Text.bytes mark) e

theorem scriptMarks_ascii : ∀ mark ∈ scriptMarks, ∀ c ∈ mark, c.toNat < 128 := by
  have hall : (scriptMarks.all fun mark => mark.all fun c => c.toNat < 128) = true := by decide
  simpa only [List.all_eq_true, decide_eq_true_eq] using hall

theorem scriptMarks_solid : ∀ mark ∈ scriptMarks, mark ≠ [] := by decide

/-- A mark ends among the bytes only where it ends in the text, which is at a boundary. -/
theorem mark_endsAmong_iff {e : Nat} :
    (∃ mark ∈ scriptMarks, Text.EndsAmong (Text.bytes body) (Text.bytes mark) e) ↔
      ∃ place, MarkEndsAt body place ∧ utf8Len (body.take place) = e := by
  constructor
  · rintro ⟨mark, hmark, hends⟩
    have hascii := scriptMarks_ascii mark hmark
    have hsolid := scriptMarks_solid mark hmark
    obtain ⟨front, spelled, rest, hspells, rfl, he⟩ :=
      (Text.endsAmong_bytes_iff hascii hsolid).mp hends
    refine ⟨(front ++ spelled).length, ⟨front ++ spelled, rest, by simp, rfl,
      mark, hmark, front, spelled, hspells, rfl⟩, ?_⟩
    rw [← List.append_assoc, List.take_left, he]
  · rintro ⟨place, ⟨before, rest, rfl, rfl, mark, hmark, front, spelled, hspells, rfl⟩, rfl⟩
    have hascii := scriptMarks_ascii mark hmark
    have hsolid := scriptMarks_solid mark hmark
    rw [List.take_left, List.append_assoc]
    exact ⟨mark, hmark, (Text.endsAmong_bytes_iff hascii hsolid).mpr
      ⟨front, spelled, rest, hspells, rfl, rfl⟩⟩

theorem le_length_of_markEndsAt {e : Nat} (h : MarkEndsAt body e) : e ≤ body.length := by
  obtain ⟨before, rest, rfl, rfl, -⟩ := h
  rw [List.length_append]
  omega

theorem finds_offsets (h : Reports body places) :
    Finds (Text.bytes body) (offsets body places) where
  sorted := by
    refine List.pairwise_map.mpr (h.sorted.imp_of_mem fun {m n} hm hn hle => ?_)
    exact (Text.utf8Len_take_le_iff (le_length_of_markEndsAt ((h.mem_iff m).mp hm))
      (le_length_of_markEndsAt ((h.mem_iff n).mp hn))).mpr hle
  mem_iff e := by
    rw [mark_endsAmong_iff, offsets, List.mem_map]
    exact exists_congr fun place => by rw [h.mem_iff]

/-- What a search by bytes tells are the offsets of the places where marks end. -/
theorem exists_reports (h : Finds (Text.bytes body) ends) :
    ∃ places, Reports body places ∧ offsets body places = ends := by
  have hends : ∀ e ∈ ends, ∃ place, MarkEndsAt body place ∧ utf8Len (body.take place) = e :=
    fun e he => mark_endsAmong_iff.mp ((h.mem_iff e).mp he)
  -- Different places have different offsets, so the places come out in order and none is missing.
  choose! place hplace hoffset using hends
  have hle {m n : Nat} (hm : MarkEndsAt body m) (hn : MarkEndsAt body n) :
      utf8Len (body.take m) ≤ utf8Len (body.take n) ↔ m ≤ n :=
    Text.utf8Len_take_le_iff (le_length_of_markEndsAt hm) (le_length_of_markEndsAt hn)
  refine ⟨ends.map place, ⟨?_, fun n => ?_⟩, ?_⟩
  · refine List.pairwise_map.mpr (h.sorted.imp_of_mem fun {e e'} he he' hsorted => ?_)
    rwa [← hle (hplace e he) (hplace e' he'), hoffset e he, hoffset e' he']
  · rw [List.mem_map]
    constructor
    · rintro ⟨e, he, rfl⟩
      exact hplace e he
    · intro hn
      have he : utf8Len (body.take n) ∈ ends :=
        (h.mem_iff _).mpr (mark_endsAmong_iff.mpr ⟨n, hn, rfl⟩)
      have hmark := hplace _ he
      exact ⟨_, he, Nat.le_antisymm ((hle hmark hn).mp (Nat.le_of_eq (hoffset _ he)))
        ((hle hn hmark).mp (Nat.le_of_eq (hoffset _ he).symm))⟩
  · rw [offsets, List.map_map]
    exact (List.map_congr_left hoffset).trans (List.map_id ends)

/-! ## Pages classified by offsets -/

theorem redirect?_eq (body : List Char) (requested : Url) : redirect? body requested =
    ((metaTarget? body).or (scriptTarget? body)).bind (follow? requested) := by
  rw [redirect?]
  cases metaTarget? body <;> cases scriptTarget? body <;> rfl

theorem scriptTarget_of_finds (h : Finds (Text.bytes body) ends) :
    scriptTarget body ends = .ok (scriptTarget? body) := by
  obtain ⟨places, hplaces, rfl⟩ := exists_reports h
  rw [scriptTarget_eq, targetAmong?_eq hplaces]

theorem metaTarget_all (body : String) {rounds : Nat} (h : body.utf8ByteSize < rounds) :
    metaTarget body.toList rounds 0 = .ok (some (metaTarget? body.toList)) :=
  metaTarget_eq [] body.toList (by rwa [String.utf8Len_toList])

theorem classify_eq (t : Triage) (body : String) (requested : Url) {rounds : Nat}
    (hends : Finds (Text.bytes body.toList) ends) (hrounds : body.utf8ByteSize < rounds) :
    classify t body.toList requested ends rounds = .ok (some (t.classify body requested)) := by
  rw [classify, metaTarget_all body hrounds, Triage.classify, redirect?_eq]
  dsimp only [bind, Except.bind]
  cases metaTarget? body.toList with
  | some target => rfl
  | none =>
    dsimp only
    rw [scriptTarget_of_finds hends]
    rfl

/-- From every boundary of characters a round comes to its end, and if the loop goes on then behind
that boundary and at another one. -/
theorem round_advances (body : String) {start : Nat} (h : String.Pos.Raw.IsValid body ⟨start⟩) :
    ∃ r, round body.toList start = .ok r ∧
      ∀ next, r = .onward next → start < next ∧ String.Pos.Raw.IsValid body ⟨next⟩ := by
  obtain ⟨before, rest, hbody, rfl⟩ := Text.isValid_iff.mp h
  obtain ⟨r, hround, hproceeds⟩ := round_proceeds before rest
  refine ⟨r, by rw [hbody, hround], ?_⟩
  rintro next rfl
  cases hproceeds with
  | @passed passed behind hrest hpassed _ =>
    have hpositive : utf8Len passed ≠ 0 := mt String.utf8Len_eq_zero.mp hpassed
    have hnext : body.toList = (before ++ passed) ++ behind := by
      rw [hbody, hrest, List.append_assoc]
    refine ⟨?_, Text.isValid_iff.mpr ⟨before ++ passed, behind, hnext, rfl⟩⟩
    rw [String.utf8Len_append]
    omega

/-- No slice fails on any page. Every round ends, so does the loop, at the latest when there is no
byte left to go on from, and what is found is what stands in the page. -/
theorem scanning_never_fails (t : Triage) (body : String) (requested : Url) (ends : List Nat)
    (h : Finds body.toUTF8.toList ends) :
    (∀ start, String.Pos.Raw.IsValid body ⟨start⟩ → ∃ r, round body.toList start = .ok r ∧
      ∀ next, r = .onward next → start < next ∧ String.Pos.Raw.IsValid body ⟨next⟩) ∧
    scriptTarget body.toList ends = .ok (scriptTarget? body.toList) ∧
    ∀ rounds, body.utf8ByteSize < rounds →
      metaTarget body.toList rounds 0 = .ok (some (metaTarget? body.toList)) ∧
      classify t body.toList requested ends rounds = .ok (some (t.classify body requested)) := by
  rw [Text.Utf8.toList_toUTF8] at h
  exact ⟨fun _ => round_advances body, scriptTarget_of_finds h, fun _ hrounds =>
    ⟨metaTarget_all body hrounds, classify_eq t body requested h hrounds⟩⟩

/-- A tag without its end and a quote without its partner, between characters of two bytes. -/
theorem scanning_never_fails_on_stray_quote :
    let page := "Größe: <meta http-equiv=refresh content='ü>" ++
      "<script>window.location = \"übrig\"</script>"
    let requested : Url :=
      ⟨"https", "", "", some (.domain "example.org"), none, false, .segments ["bin"], none, none⟩
    Finds page.toUTF8.toList [69] ∧ String.Pos.Raw.IsValid page ⟨9⟩ ∧
      round page.toList 9 = .ok (.onward 45) ∧ String.Pos.Raw.IsValid page ⟨45⟩ ∧
      scriptTarget page.toList [69] = .ok (some "übrig".toList) ∧
      classify usual page.toList requested [69] 100 =
        .ok (some (usual.classify page requested)) := by
  intro page requested
  have hends : offsets page.toList (markEnds page.toList) = [69] := by decide +kernel
  have hfinds : Finds page.toUTF8.toList [69] := by
    rw [Text.Utf8.toList_toUTF8, ← hends]
    exact finds_offsets (reports_markEnds page.toList)
  obtain ⟨hrounds, hscript, hpage⟩ := scanning_never_fails usual page requested [69] hfinds
  have hvalid : String.Pos.Raw.IsValid page ⟨9⟩ := by decide +kernel
  have hround : round page.toList 9 = .ok (.onward 45) := by decide +kernel
  have htarget : scriptTarget? page.toList = some "übrig".toList := by decide +kernel
  obtain ⟨r, hr, hnext⟩ := hrounds 9 hvalid
  cases hround.symm.trans hr
  exact ⟨hfinds, hvalid, hround, (hnext 45 rfl).2, htarget ▸ hscript,
    (hpage 100 (by decide +kernel)).2⟩

end Transit.Triage.Offsets
