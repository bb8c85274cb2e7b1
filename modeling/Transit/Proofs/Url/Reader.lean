import Transit.Proofs.Url.Path
import Transit.Url.Reader

/-! # Paths that have been read

No name in a path that has been read has a slash, and no path of a file has an empty name in front.
Each segment that is taken keeps to this, so the whole path does.
-/
namespace Transit.Url

namespace Path

variable {scheme text : String} {names : List String} {stack : Stack} {segment cs : List Char}
  {closed : Bool}

/-! ### Names without slashes -/

theorem slashFree_cons {name : String} :
    SlashFree (name :: names) ↔ '/' ∉ name.toList ∧ SlashFree names := List.forall_mem_cons

theorem slashFree_nil : SlashFree [] := List.forall_mem_nil _

theorem slash_not_mem_empty : '/' ∉ "".toList := by decide

theorem SlashFree.opened (h : SlashFree stack) : SlashFree (opened stack) := by
  rw [Path.opened.eq_def]
  split
  · exact h
  · exact slashFree_cons.mpr ⟨slash_not_mem_empty, h⟩

theorem SlashFree.extend (h : SlashFree stack) (htext : '/' ∉ text.toList) :
    SlashFree (extend text stack) := by
  cases stack with
  | nil => exact slashFree_cons.mpr ⟨htext, h⟩
  | cons name names =>
    rw [slashFree_cons] at h
    exact slashFree_cons.mpr ⟨by simp [h.1, htext], h.2⟩

theorem SlashFree.clear (h : SlashFree stack) : SlashFree (clear scheme stack) := by
  cases stack with
  | nil => exact h
  | cons name names =>
    rw [Path.clear]
    split
    · exact h
    · exact slashFree_cons.mpr ⟨slash_not_mem_empty, (slashFree_cons.mp h).2⟩

theorem SlashFree.goUp (h : SlashFree stack) : SlashFree (goUp scheme stack) := by
  rw [Path.goUp.eq_def]
  split
  · apply SlashFree.clear
    split
    · exact h
    · exact (slashFree_cons.mp h).2
  · exact h.clear

theorem SlashFree.enter (h : SlashFree stack) (hsegment : '/' ∉ segment) :
    SlashFree (enter scheme stack segment) := by
  rw [Path.enter]
  split
  · refine slashFree_cons.mpr ⟨?_, slashFree_nil⟩
    have hletter : '/' ∉ segment.take 1 := mt List.mem_of_mem_take hsegment
    simpa using hletter
  · exact h.extend (by simpa using hsegment)

theorem SlashFree.takePlain (h : SlashFree stack) (hsegment : '/' ∉ segment) :
    SlashFree (takePlain scheme closed stack segment) := by
  have hopen : SlashFree (if isDriveOnly scheme stack && !segment.isEmpty then "" :: stack
      else stack) := by
    split
    · exact slashFree_cons.mpr ⟨slash_not_mem_empty, h⟩
    · exact h
  rw [Path.takePlain]
  cases moveOf segment with
  | up =>
    dsimp only
    split
    · exact hopen.goUp.opened
    · exact hopen.goUp
  | stay => exact hopen.opened
  | enter =>
    dsimp only
    split
    · exact slashFree_cons.mpr ⟨slash_not_mem_empty, hopen.enter hsegment⟩
    · exact hopen.enter hsegment

/-- One segment adds no slash. -/
theorem SlashFree.take (h : SlashFree stack) (hsegment : '/' ∉ segment) :
    SlashFree (take scheme closed stack segment) := by
  rw [Path.take.eq_def]
  split
  · rename_i c rest
    simp only [List.mem_cons, not_or] at hsegment
    split
    · have hsplit : SlashFree [String.ofList rest, String.ofList [c, ':']] :=
        slashFree_cons.mpr ⟨by simpa using hsegment.2.2.2, slashFree_cons.mpr
          ⟨by simpa using hsegment.1, slashFree_nil⟩⟩
      dsimp only
      split
      · exact slashFree_cons.mpr ⟨slash_not_mem_empty, hsplit⟩
      · exact hsplit
    · apply h.takePlain
      simp [hsegment.1, hsegment.2.2.2]
  · exact h.takePlain hsegment

/-- By induction on the segments that are still to be taken. -/
theorem SlashFree.takeAll {segments : List (List Char)} (h : SlashFree stack)
    (hsegments : ∀ segment ∈ segments, '/' ∉ segment) :
    SlashFree (takeAll scheme stack segments) := by
  induction segments generalizing stack with
  | nil => exact h
  | cons segment segments ih =>
    rw [List.forall_mem_cons] at hsegments
    cases segments with
    | nil => exact h.take hsegments.1
    | cons second segments => exact ih (h.take hsegments.1) hsegments.2

theorem slash_not_mem_segment (special : Bool) (cs : List Char) :
    ∀ segment ∈ splitSegments special cs, '/' ∉ segment := by
  induction cs with
  | nil => simp [splitSegments]
  | cons c cs ih =>
    rw [splitSegments]
    split
    · exact List.forall_mem_cons.mpr ⟨List.not_mem_nil, ih⟩
    next hc =>
      have hc : '/' ≠ c := by
        rintro rfl
        exact hc (by simp [isSlash])
      cases hsegments : splitSegments special cs with
      | nil => simpa using hc
      | cons segment rest =>
        rw [hsegments, List.forall_mem_cons] at ih
        exact List.forall_mem_cons.mpr ⟨by simp [hc, ih.1], ih.2⟩

theorem SlashFree.walk (h : SlashFree names) (scheme : String) (cs : List Char) :
    SlashFree (walk scheme names cs) := by
  have hstack : SlashFree names.reverse := fun name hname => h name (List.mem_reverse.mp hname)
  intro name hname
  exact hstack.takeAll (slash_not_mem_segment _ _) name (List.mem_reverse.mp hname)

theorem trimFront_cases (scheme : String) (names : List String) :
    trimFront scheme names = [""] ∨
      trimFront scheme names <:+ names ∧ Headed scheme (trimFront scheme names) := by
  rw [trimFront]
  split
  · split
    next => exact .inl rfl
    next kept hkept =>
      refine .inr ⟨List.dropWhile_suffix _, fun _ hhead => ?_⟩
      have hfirst := List.head?_dropWhile_not (· == "") names
      simp [hhead] at hfirst
  next hfile => exact .inr ⟨List.suffix_refl _, fun hfile' => absurd hfile' hfile⟩

theorem SlashFree.trimFront (h : SlashFree names) (scheme : String) :
    SlashFree (trimFront scheme names) := by
  rcases trimFront_cases scheme names with hempty | ⟨hsuffix, -⟩
  · rw [hempty]
    exact slashFree_cons.mpr ⟨slash_not_mem_empty, slashFree_nil⟩
  · exact fun name hname => h name (hsuffix.subset hname)

theorem headed_nil (scheme : String) : Headed scheme [] := fun _ => nofun

theorem headed_trimFront (scheme : String) (names : List String) :
    Headed scheme (bottom (trimFront scheme names)) := by
  rcases trimFront_cases scheme names with hempty | ⟨-, hheaded⟩
  · rw [hempty]
    exact headed_nil scheme
  · rw [bottom]
    split
    · exact headed_nil scheme
    · exact hheaded

end Path

open Url.Path (SlashFree Headed bottom)

variable {scheme s : String} {names : List String} {cs : List Char} {u : Url}

/-! ### All that is read -/

/-- What holds of the path of every URL that has been read. -/
structure HasReadPath (u : Url) : Prop where
  slashFree : SlashFree u.path.names
  headed : Headed u.scheme (bottom u.path.names)

theorem HasReadPath.withTail (h : HasReadPath u) (cs : List Char) : HasReadPath (u.withTail cs) :=
  ⟨h.slashFree, h.headed⟩

theorem hasReadPath_continued (h : SlashFree names) (u : Url) (cs : List Char) :
    HasReadPath (u.continued names cs) :=
  ⟨(h.walk u.scheme _).trimFront u.scheme, Path.headed_trimFront u.scheme _⟩

theorem slashFree_root : SlashFree [""] :=
  Path.slashFree_cons.mpr ⟨Path.slash_not_mem_empty, Path.slashFree_nil⟩

/-- From the root. -/
theorem hasReadPath_rooted (u : Url) (cs : List Char) : HasReadPath (u.continued [""] cs) :=
  hasReadPath_continued slashFree_root u cs

theorem hasReadPath_of_names_eq_nil (h : u.path.names = []) : HasReadPath u := by
  constructor
  · rw [h]
    exact Path.slashFree_nil
  · rw [h]
    exact Path.headed_nil u.scheme

theorem hasReadPath_of_withAuthority? (h : withAuthority? scheme cs = some u) : HasReadPath u := by
  rw [withAuthority?] at h
  obtain ⟨⟨user, behind⟩, -, h⟩ := Option.bind_eq_some_iff.mp h
  dsimp only at h
  split at h
  · cases h
  -- The two readers of hosts are followed by the same.
  split at h
  all_goals
    obtain ⟨host, -, h⟩ := Option.bind_eq_some_iff.mp h
    obtain ⟨⟨port, behind⟩, -, h⟩ := Option.bind_eq_some_iff.mp h
    dsimp only at h
    split at h
    · cases h
      first
        | exact hasReadPath_rooted _ _
        | exact hasReadPath_of_names_eq_nil rfl
    · split_ifs at h
      · cases h
        exact hasReadPath_rooted _ _
      · cases h
        exact (hasReadPath_of_names_eq_nil rfl).withTail _
      · cases h
        exact hasReadPath_rooted _ _

theorem hasReadPath_of_fileAt? (h : fileAt? cs = some u) : HasReadPath u := by
  rw [fileAt?] at h
  dsimp only at h
  split_ifs at h
  · cases h
    exact hasReadPath_rooted _ _
  · cases h
    exact hasReadPath_rooted _ _
  · obtain ⟨host, -, rfl⟩ := Option.map_eq_some_iff.mp h
    split
    · exact hasReadPath_rooted _ _
    · exact hasReadPath_rooted _ _

theorem hasReadPath_of_file? (h : file? none cs = some u) : HasReadPath u := by
  have hreference {cs : List Char} (h : file?.fileReference none cs = some u) : HasReadPath u := by
    rw [file?.fileReference.eq_def] at h
    split at h
    next hbase => cases hbase
    next =>
      cases h
      exact hasReadPath_rooted _ _
    next c rest =>
      split_ifs at h
      · cases h
        rw [fileFrom]
        split_ifs
        · exact hasReadPath_rooted _ _
        · exact hasReadPath_rooted _ _
      all_goals
        cases h
        exact hasReadPath_rooted _ _
  rw [file?.eq_def] at h
  split at h
  · split_ifs at h
    · exact hasReadPath_of_fileAt? h
    · exact hreference h
  · exact hreference h

theorem hasReadPath_of_other? (h : other? scheme cs = some u) : HasReadPath u := by
  rw [other?.eq_def] at h
  dsimp only at h
  split at h
  · exact hasReadPath_of_withAuthority? h
  · cases h
    exact hasReadPath_rooted _ _
  · cases h
    exact (hasReadPath_of_names_eq_nil rfl).withTail _

/-- Every URL that is read without a base. -/
theorem hasReadPath_of_ofText? (h : ofText? s = some u) : HasReadPath u := by
  rw [ofText?, resolve?] at h
  dsimp only at h
  split at h
  · split_ifs at h
    · exact hasReadPath_of_file? h
    · exact hasReadPath_of_withAuthority? h
    · exact hasReadPath_of_other? h
  · cases h

end Transit.Url
