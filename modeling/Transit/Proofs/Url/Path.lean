import Transit.Proofs.Url.Percent
import Transit.Url

/-! # Segments added to a path

A segment that is added to a path is encoded, and becomes one more name behind those that are there.
Dots make a difference: a segment of one dot or of two is left out, and if such dots come out only
when the breaks in a segment are dropped, they act on the path.
-/
namespace Transit

namespace Text

variable {mark : Char} {cs : List Char}

theorem splitOn_ne_nil (mark : Char) (cs : List Char) : splitOn mark cs ≠ [] := by
  cases cs with
  | nil => exact List.cons_ne_nil _ _
  | cons c cs =>
    rw [splitOn]
    split
    · exact List.cons_ne_nil _ _
    · split <;> exact List.cons_ne_nil _ _

theorem splitOn_append_cons (mark : Char) (cs rest : List Char) :
    splitOn mark (cs ++ mark :: rest) = splitOn mark cs ++ splitOn mark rest := by
  induction cs with
  | nil => simp [splitOn]
  | cons c cs ih =>
    rw [List.cons_append, splitOn, splitOn, ih]
    split
    · rfl
    · cases hparts : splitOn mark cs with
      | nil => exact absurd hparts (splitOn_ne_nil mark cs)
      | cons part parts => rfl

theorem splitOn_eq_singleton (h : mark ∉ cs) : splitOn mark cs = [cs] := by
  induction cs with
  | nil => rfl
  | cons c cs ih =>
    rw [List.mem_cons, not_or] at h
    have hc : (c == mark) = false := beq_false_of_ne (Ne.symm h.1)
    rw [splitOn, hc, ih h.2]
    rfl

end Text

namespace Url.Path

variable {scheme segment : String} {names rest : List String} {name : String} {cs : List Char}
  {reserved : Percent.Reserved} {c : Char} {b : UInt8}

/-! ### Dots -/

theorem readDots_cons (hc : c ≠ '%') (cs : List Char) : readDots (c :: cs) = c :: readDots cs := by
  rw [readDots]
  · exact fun _ h => absurd h hc
  · exact fun _ h => absurd h hc

theorem upperHex_ne : ∀ n < 16, Percent.upperHex n ≠ '%' ∧ Percent.upperHex n ≠ 'e' ∧
    (Percent.upperHex n = '2' → n = 2) ∧ (Percent.upperHex n = 'E' → n = 14) := by decide

/-- Only a dot is read as a dot. -/
theorem readDots_encodeByte (hb : b.toNat ≠ 0x2E) (cs : List Char) :
    readDots (Percent.encodeByte b ++ cs) = Percent.encodeByte b ++ readDots cs := by
  have hbyte : b.toNat < 256 := b.toNat_lt
  obtain ⟨hhigh, -, htwo, -⟩ := upperHex_ne (b.toNat / 16) (by omega)
  obtain ⟨hlow, hsmall, -, hfourteen⟩ := upperHex_ne (b.toNat % 16) (by omega)
  rw [Percent.encodeByte, List.cons_append, List.cons_append, List.singleton_append, readDots,
    readDots_cons hhigh, readDots_cons hlow]
  · rfl
  · intro _ _ hdigits
    exact hsmall (List.cons.inj (List.cons.inj hdigits).2).1
  · intro _ _ hdigits
    obtain ⟨hfirst, hsecond⟩ := List.cons.inj hdigits
    have htwo := htwo hfirst
    have hfourteen := hfourteen (List.cons.inj hsecond).1
    omega

theorem readDots_encodeBytes {bytes : List UInt8} (h : ∀ b ∈ bytes, b.toNat ≠ 0x2E)
    (cs : List Char) :
    readDots (bytes.flatMap Percent.encodeByte ++ cs) =
      bytes.flatMap Percent.encodeByte ++ readDots cs := by
  induction bytes with
  | nil => rfl
  | cons b bytes ih =>
    rw [List.forall_mem_cons] at h
    rw [List.flatMap_cons, List.append_assoc, readDots_encodeByte h.1, ih h.2, List.append_assoc]

/-- If dots stand for themselves and percent signs do not, then no encoded text has other dots than
the text itself. -/
theorem readDots_encode (hdot : reserved '.' = false) (hpercent : reserved '%' = true)
    (cs : List Char) : readDots (Percent.encode reserved cs) = Percent.encode reserved cs := by
  induction cs with
  | nil => rfl
  | cons c cs ih =>
    rw [Percent.encode, List.flatMap_cons, ← Percent.encode]
    rcases Percent.encodeChar_cases reserved c with ⟨hencode, -, hfree⟩ | ⟨hencode, hbound⟩
    · have hc : c ≠ '%' := by
        rintro rfl
        rw [hpercent] at hfree
        cases hfree
      rw [hencode, List.singleton_append, readDots_cons hc, ih]
    · rw [hencode, readDots_encodeBytes, ih]
      intro b hb hbyte
      rw [Percent.bytes] at hb
      rcases Nat.lt_or_ge c.toNat 128 with hascii | hlong
      · rw [Text.Utf8.encodeChar_ascii hascii, List.mem_singleton] at hb
        rw [hb, UInt8.toNat_ofNat'] at hbyte
        have hc : c = '.' := Char.toNat_inj.mp (by change c.toNat = 0x2E; omega)
        rw [hc, hdot] at hbound
        exact absurd (hbound (by decide)) Bool.false_ne_true
      · have hbig := Text.le_of_mem_utf8EncodeChar hlong b hb
        omega

theorem encode_dots (hdot : reserved '.' = false) (n : Nat) :
    Percent.encode reserved (List.replicate n '.') = List.replicate n '.' := by
  have hchar : Percent.encodeChar reserved '.' = ['.'] := by
    rw [Percent.encodeChar, hdot]
    rfl
  induction n with
  | zero => rfl
  | succ n ih =>
    rw [List.replicate_succ, Percent.encode, List.flatMap_cons, hchar, ← Percent.encode, ih]
    rfl

theorem moveOf_encode (hdot : reserved '.' = false) (hpercent : reserved '%' = true)
    (hone : cs ≠ ['.']) (htwo : cs ≠ ['.', '.']) :
    moveOf (Percent.encode reserved cs) = .enter := by
  have hdots {n : Nat} (h : cs ≠ List.replicate n '.') :
      Percent.encode reserved cs ≠ List.replicate n '.' := fun hcs =>
    h (Percent.encode_injective hpercent (hcs.trans (encode_dots hdot n).symm))
  rw [moveOf, readDots_encode hdot hpercent]
  split
  next hcs => exact absurd hcs (hdots (n := 2) htwo)
  next hcs => exact absurd hcs (hdots (n := 1) hone)
  next => rfl

/-! ### One more segment -/

/-- What stands for itself in no segment that is added. -/
def segmentReserved (scheme : String) : Percent.Reserved :=
  if isSpecial scheme then Percent.inSpecialSegment else Percent.inSegment

theorem segmentReserved_percent (scheme : String) : segmentReserved scheme '%' = true := by
  rw [segmentReserved]
  split <;> rfl

theorem segmentReserved_slash (scheme : String) : segmentReserved scheme '/' = true := by
  rw [segmentReserved]
  split <;> rfl

theorem segmentReserved_dot (scheme : String) : segmentReserved scheme '.' = false := by
  rw [segmentReserved]
  split <;> rfl

/-- A segment as it is written. -/
def segmentText (scheme : String) (cs : List Char) : String :=
  String.ofList (Percent.encode (segmentReserved scheme) cs)

theorem decode?_segmentText (scheme : String) (cs : List Char) :
    Percent.decode? (segmentText scheme cs).toList = some cs := by
  rw [segmentText, String.toList_ofList, Percent.decode?_encode (segmentReserved_percent scheme)]

theorem slash_not_mem_segmentText (scheme : String) (cs : List Char) :
    '/' ∉ (segmentText scheme cs).toList := by
  rw [segmentText, String.toList_ofList]
  exact Percent.not_mem_encode (segmentReserved_slash scheme) (by decide) rfl cs

/-- A segment without its breaks. -/
def unbroken (segment : String) : List Char :=
  segment.toList.filter fun c => c != '\t' && c != '\n' && c != '\r'

/-- The names that a segment is put behind: a single empty one is filled. -/
def bottom (names : List String) : List String := if names = [""] then [] else names

theorem bottom_append_singleton (hname : name ≠ "") : bottom (names ++ [name]) = names ++ [name] := by
  rw [bottom, if_neg]
  intro h
  cases names with
  | nil => exact hname (List.singleton_inj.mp h)
  | cons first names => simp at h

theorem push_eq (hone : segment ≠ ".") (htwo : segment ≠ "..") :
    push scheme names segment = trimFront scheme (takePlain scheme false
      ("" :: (bottom names).reverse)
      (Percent.encode (segmentReserved scheme) (unbroken segment))).reverse := by
  have hstack : (if (names == [""]) = true then names else "" :: names.reverse) =
      "" :: (bottom names).reverse := by
    rw [bottom]
    by_cases hnames : names = [""] <;> simp [hnames]
  rw [push, if_neg (by simp [hone, htwo]), hstack]
  rfl

/-- Dots are left out. -/
theorem push_dots (h : segment = "." ∨ segment = "..") : push scheme names segment = names := by
  rw [push, if_pos (by simpa using h)]

theorem isDriveOnly_empty (scheme : String) (rest : Stack) :
    isDriveOnly scheme ("" :: rest) = false := by
  cases rest with
  | nil => simp [isDriveOnly, isDrive, isDriveText]
  | cons name rest => rfl

theorem takePlain_open (scheme : String) (rest : Stack) (cs : List Char) :
    takePlain scheme false ("" :: rest) cs = match moveOf cs with
      | .up => goUp scheme ("" :: rest)
      | .stay => "" :: rest
      | .enter => enter scheme ("" :: rest) cs := by
  rw [takePlain, isDriveOnly_empty]
  cases moveOf cs <;> rfl

/-- A segment that is no drive of a file is entered as it is. -/
theorem push_enter (hone : unbroken segment ≠ ['.']) (htwo : unbroken segment ≠ ['.', '.'])
    (hdrive : bottom names ≠ [] ∨
      isDriveText (Percent.encode (segmentReserved scheme) (unbroken segment)) = false) :
    push scheme names segment =
      trimFront scheme (bottom names ++ [segmentText scheme (unbroken segment)]) := by
  have hentered : enter scheme ("" :: (bottom names).reverse)
      (Percent.encode (segmentReserved scheme) (unbroken segment)) =
        segmentText scheme (unbroken segment) :: (bottom names).reverse := by
    rw [enter, if_neg, extend, String.empty_append, segmentText]
    rcases hdrive with hne | hdrive <;> simp_all
  rw [push_eq (by rintro rfl; exact hone rfl) (by rintro rfl; exact htwo rfl), takePlain_open,
    moveOf_encode (segmentReserved_dot scheme) (segmentReserved_percent scheme) hone htwo]
  simp only [hentered, List.reverse_cons, List.reverse_reverse]

/-- Files have no empty name in front. -/
def Headed (scheme : String) (names : List String) : Prop :=
  isFile scheme = true → names.head? ≠ some ""

theorem trimFront_headed (h : Headed scheme names) (hne : names ≠ []) :
    trimFront scheme names = names := by
  rw [trimFront]
  split
  next hfile =>
    cases names with
    | nil => exact absurd rfl hne
    | cons name names =>
      have hname : (name == "") = false := beq_false_of_ne fun hname => h hfile (by simp [hname])
      rw [List.dropWhile_cons_of_neg (by simp [hname])]
  next => rfl

theorem Headed.append (h : Headed scheme names) (hname : name ≠ "") (rest : List String) :
    Headed scheme (names ++ name :: rest) := by
  intro hfile
  cases names with
  | nil => simpa using hname
  | cons first names => exact h hfile

theorem bottom_headed (h : Headed scheme (bottom names)) :
    Headed scheme (bottom (popIfEmpty names)) := by
  rw [popIfEmpty]
  split
  next hpop =>
    have hlength : 1 < names.length := by simpa using (Bool.and_eq_true_iff.mp hpop).2
    obtain ⟨first, second, rest, rfl⟩ : ∃ first second rest, names = first :: second :: rest := by
      match names, hlength with
      | first :: second :: rest, _ => exact ⟨first, second, rest, rfl⟩
    rw [bottom, if_neg (by simp)] at h
    rw [bottom]
    split
    · exact fun _ => nofun
    · exact h
  next => exact h

/-- One dot that comes out of a segment leaves an empty name. -/
theorem push_stay (h : unbroken segment = ['.']) (hone : segment ≠ ".") :
    push scheme names segment = trimFront scheme (bottom names ++ [""]) := by
  have hencode := encode_dots (segmentReserved_dot scheme) 1
  rw [push_eq hone (by rintro rfl; cases h), h]
  change trimFront scheme (takePlain scheme false _ (Percent.encode _ (List.replicate 1 '.'))).reverse
    = _
  rw [hencode, takePlain_open]
  simp [moveOf, readDots]

/-- Two dots that come out of a segment take the last name away. -/
theorem push_up (h : unbroken segment = ['.', '.']) (htwo : segment ≠ "..") (hname : name ≠ "")
    (hdrive : startsWithDrive name.toList = false) (hfile : isDrive name = false) :
    push scheme (names ++ [name]) segment = trimFront scheme (names ++ [""]) := by
  have hencode := encode_dots (segmentReserved_dot scheme) 2
  rw [push_eq (by rintro rfl; cases h) htwo, h, bottom_append_singleton hname]
  change trimFront scheme (takePlain scheme false _ (Percent.encode _ (List.replicate 2 '.'))).reverse
    = _
  rw [hencode, takePlain_open]
  simp [moveOf, readDots, goUp, clear, hdrive, hfile]

/-! ### The text of a path -/

def SlashFree (names : List String) : Prop := ∀ name ∈ names, '/' ∉ name.toList

instance (names : List String) : Decidable (SlashFree names) :=
  inferInstanceAs (Decidable (∀ name ∈ names, '/' ∉ name.toList))

theorem toList_segmentsText_cons (name : String) (names : List String) :
    (segmentsText (name :: names)).toList = '/' :: (name.toList ++ (segmentsText names).toList) := by
  simp [segmentsText]

theorem splitOn_append_segmentsText (h : SlashFree names) (cs : List Char) :
    Text.splitOn '/' (cs ++ (segmentsText names).toList) =
      Text.splitOn '/' cs ++ names.map String.toList := by
  induction names generalizing cs with
  | nil => simp [segmentsText]
  | cons name names ih =>
    rw [SlashFree, List.forall_mem_cons] at h
    rw [toList_segmentsText_cons, Text.splitOn_append_cons, ih h.2,
      Text.splitOn_eq_singleton h.1]
    rfl

theorem toList_segmentsText_append (names rest : List String) :
    (segmentsText (names ++ rest)).toList =
      (segmentsText names).toList ++ (segmentsText rest).toList := by
  simp [segmentsText]

/-- A path without a slash at its end, as what is added is put behind it. Two slashes are as good as
one. -/
def trunk (cs : List Char) : List Char :=
  if cs = ['/', '/'] then [] else if cs.getLast? = some '/' then cs.dropLast else cs

theorem segmentsText_eq_slash_iff : (segmentsText names).toList = ['/'] ↔ names = [""] := by
  constructor
  · intro h
    rcases names with _ | ⟨name, _ | ⟨second, rest⟩⟩
    · simp [segmentsText] at h
    · rw [toList_segmentsText_cons] at h
      simpa [segmentsText] using h
    · rw [toList_segmentsText_cons, toList_segmentsText_cons] at h
      simp at h
  · rintro rfl
    rfl

theorem trunk_segmentsText (h : SlashFree names) :
    trunk (segmentsText names).toList = (segmentsText (bottom (popIfEmpty names))).toList := by
  rcases List.eq_nil_or_concat names with rfl | ⟨front, name, rfl⟩
  · rfl
  rw [List.concat_eq_append] at h ⊢
  have htext := toList_segmentsText_append front [name]
  rw [toList_segmentsText_cons] at htext
  by_cases hname : name = ""
  · subst hname
    replace htext : (segmentsText (front ++ [""])).toList = (segmentsText front).toList ++ ['/'] :=
      htext
    have hpop : front ≠ [] → popIfEmpty (front ++ [""]) = front := fun hne => by
      simp [popIfEmpty, List.length_pos_iff.mpr hne]
    by_cases hfront : front = [""]
    · subst hfront
      rfl
    · have htrunk : (segmentsText front).toList ≠ ['/'] := mt segmentsText_eq_slash_iff.mp hfront
      have hdouble : (segmentsText front).toList ++ ['/'] ≠ ['/', '/'] := fun heq =>
        htrunk (List.append_cancel_right (heq.trans (rfl : _ = ['/'] ++ ['/'])))
      rw [htext, trunk, if_neg hdouble, if_pos (by simp), List.dropLast_concat]
      by_cases hempty : front = []
      · subst hempty
        rfl
      · rw [hpop hempty, bottom, if_neg hfront]
  · have hlast : (segmentsText (front ++ [name])).toList.getLast? ≠ some '/' := by
      have hchars : name.toList ≠ [] := by simpa using hname
      have hends : (segmentsText (front ++ [name])).toList =
          (segmentsText front).toList ++ ['/'] ++ name.toList := by
        rw [htext]
        simp [segmentsText]
      rw [hends, List.getLast?_append_of_ne_nil _ hchars]
      exact fun hslash => h name (by simp) (List.mem_of_getLast? hslash)
    have hdouble : (segmentsText (front ++ [name])).toList ≠ ['/', '/'] := by
      intro heq
      rw [heq] at hlast
      exact hlast rfl
    have hpop : popIfEmpty (front ++ [name]) = front ++ [name] := by simp [popIfEmpty, hname]
    rw [trunk, if_neg hdouble, if_neg hlast, hpop, bottom_append_singleton hname]

end Url.Path

end Transit
