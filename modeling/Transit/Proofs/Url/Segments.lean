import Transit.Proofs.Url.Reader

/-! # Addresses below a base

A path goes on from that of a base with further segments, whether the base ends with a slash or not.
The words that stand for the resources of a backend are written as they are.
-/
namespace Transit.Url

open Url.Path

variable {base url : Url} {scheme word : String} {names tail : List String}

/-- What the resources of a backend are named by. -/
def resourceWords : List String := ["stops", "departures", "locations", "journeys"]

/-- Letters are written as they are. -/
theorem push_word (hword : word ∈ resourceWords) (h : Headed scheme (bottom names)) :
    push scheme names word = bottom names ++ [word] := by
  have hall : ∀ word ∈ resourceWords,
      ∀ reserved ∈ [Percent.inSpecialSegment, Percent.inSegment],
        Percent.encode reserved (unbroken word) = word.toList ∧ word ≠ "" ∧
          unbroken word ≠ ['.'] ∧ unbroken word ≠ ['.', '.'] ∧ isDriveText word.toList = false := by
    decide
  have hreserved : segmentReserved scheme ∈ [Percent.inSpecialSegment, Percent.inSegment] := by
    rw [segmentReserved]
    split <;> simp
  obtain ⟨hwritten, hne, hone, htwo, hdrive⟩ := hall word hword _ hreserved
  rw [push_enter hone htwo (.inr (by rw [hwritten, hdrive])), segmentText, hwritten,
    String.ofList_toList, trimFront_headed (h.append hne []) (by simp)]

theorem decode?_word (hword : word ∈ resourceWords) :
    Percent.decode? word.toList = some word.toList := by
  have hall : ∀ word ∈ resourceWords,
      Percent.encode Percent.inSegment word.toList = word.toList := by decide
  rw [← hall word hword, Percent.decode?_encode rfl, hall word hword]

theorem slash_not_mem_word (hword : word ∈ resourceWords) : '/' ∉ word.toList := by
  have hall : ∀ word ∈ resourceWords, '/' ∉ word.toList := by decide
  exact hall word hword

/-- The path of `url` is that of `base`, less a slash at its end, with further segments behind it
that are read back as some texts. -/
def GoesOn (base url : Url) (texts : List String) : Prop :=
  ∃ segments, Text.splitOn '/' url.path.text.toList =
      Text.splitOn '/' (trunk base.path.text.toList) ++ segments ∧
    segments.map Percent.decode? = texts.map fun text => some text.toList

theorem goesOn_withParams (params : List (String × String)) (texts : List String) :
    GoesOn base (url.withParams params) texts ↔ GoesOn base url texts := Iff.rfl

def readBack (tail : List String) : List (Option (List Char)) :=
  tail.map fun name => Percent.decode? name.toList

/-- The names behind those of the base are its further segments. -/
theorem goesOn_iff (hread : HasReadPath base) (hpath : base.path = .segments names)
    (hurl : url.path = .segments (bottom (popIfEmpty names) ++ tail)) (hfree : SlashFree tail)
    (texts : List String) :
    GoesOn base url texts ↔ readBack tail = texts.map fun text => some text.toList := by
  have hnames : SlashFree names := by
    have hslash := hread.slashFree
    rwa [hpath] at hslash
  have hsplit : Text.splitOn '/' url.path.text.toList =
      Text.splitOn '/' (trunk base.path.text.toList) ++ tail.map String.toList := by
    rw [hurl, hpath, Path.text, Path.text, trunk_segmentsText hnames, toList_segmentsText_append,
      splitOn_append_segmentsText hfree]
  rw [GoesOn]
  constructor
  · rintro ⟨segments, hsegments, htexts⟩
    obtain rfl := List.append_cancel_left (hsplit.symm.trans hsegments)
    rw [List.map_map] at htexts
    exact htexts
  · intro hback
    refine ⟨_, hsplit, ?_⟩
    rw [List.map_map]
    exact hback

/-- A resource right below the base. -/
theorem goesOn_of_descend? (hread : HasReadPath base) (hword : word ∈ resourceWords)
    (h : base.descend? [word] = some url) : GoesOn base url [word] := by
  rw [descend?] at h
  cases hpath : base.path with
  | plain text =>
    rw [hpath] at h
    cases h
  | segments names =>
    rw [hpath] at h
    cases h
    have hheaded : Headed base.scheme (bottom names) := by
      have hbase := hread.headed
      rwa [hpath] at hbase
    have hfree : SlashFree [word] := slashFree_cons.mpr ⟨slash_not_mem_word hword, slashFree_nil⟩
    rw [goesOn_iff hread hpath (congrArg Path.segments (push_word hword (bottom_headed hheaded)))
      hfree]
    rw [readBack, List.map_singleton, decode?_word hword]
    rfl

/-- A resource is below the base in nothing but its path. -/
theorem descend?_elsewhere {segments : List String} (h : base.descend? segments = some url) :
    { url with path := base.path } = base := by
  rw [descend?] at h
  split at h
  · cases h
  · cases h
    rfl

end Transit.Url
