import Transit.Proofs.Polyline

/-! # Polylines that go on

A polyline is read from its front, so that the points that have been read stay when more comes
behind them. A byte that no group is written as is the end of a polyline, wherever it stands.
-/
namespace Transit.Polyline

variable {bytes rest : List UInt8} {b : UInt8} {v : Int}

/-! ### What comes behind -/

theorem readGroups_append {shift low : Nat} (h : readGroups shift low bytes = some (v, rest))
    (more : List UInt8) : readGroups shift low (bytes ++ more) = some (v, rest ++ more) := by
  induction bytes generalizing shift low with
  | nil => cases h
  | cons b bytes ih =>
    by_cases hgroup : IsGroupByte b ∧ shift ≤ 30
    · obtain ⟨g, hg, rfl⟩ := hgroup.1.exists_group
      rw [readGroups_cons hgroup.2 hg] at h
      rw [List.cons_append, readGroups_cons hgroup.2 hg]
      by_cases hlast : g < 32
      · rw [if_pos hlast] at h ⊢
        cases h
        rfl
      · rw [if_neg hlast] at h ⊢
        exact ih h
    · rw [readGroups_eq_none hgroup] at h
      cases h

theorem values_prefix (bytes more : List UInt8) : values bytes <+: values (bytes ++ more) := by
  fun_induction values bytes with
  | case1 bytes v rest hread ih =>
    rw [values_of_read (readGroups_append hread more)]
    exact List.cons_prefix_cons.mpr ⟨rfl, ih⟩
  | case2 => exact List.nil_prefix

/-- A track ends at the first place out of range, whatever differences come behind. -/
theorem track_prefix (lat lon : Int) (vs more : List Int) :
    track lat lon vs <+: track lat lon (vs ++ more) := by
  fun_induction track lat lon vs with
  | case1 lat lon north east rest lat' lon' y x hy hx ih =>
    rw [List.cons_append, List.cons_append, track, hy, hx]
    exact List.cons_prefix_cons.mpr ⟨rfl, ih⟩
  | case2 | case3 => exact List.nil_prefix

/-! ### Bytes that end a polyline -/

/-- A byte that no group is written as is like the end of the bytes. -/
theorem readGroups_foreign (h : ¬IsGroupByte b) (shift low : Nat) (before after : List UInt8) :
    readGroups shift low (before ++ b :: after) =
      (readGroups shift low before).map fun read => (read.1, read.2 ++ b :: after) := by
  induction before generalizing shift low with
  | nil => exact readGroups_eq_none (fun hgroup => h hgroup.1) low after
  | cons c before ih =>
    by_cases hgroup : IsGroupByte c ∧ shift ≤ 30
    · obtain ⟨g, hg, rfl⟩ := hgroup.1.exists_group
      rw [List.cons_append, readGroups_cons hgroup.2 hg, readGroups_cons hgroup.2 hg]
      by_cases hlast : g < 32
      · rw [if_pos hlast, if_pos hlast]
        rfl
      · rw [if_neg hlast, if_neg hlast, ih]
    · rw [List.cons_append, readGroups_eq_none hgroup, readGroups_eq_none hgroup]
      rfl

theorem values_foreign (h : ¬IsGroupByte b) (before after : List UInt8) :
    values (before ++ b :: after) = values before := by
  have hread : readValue (before ++ b :: after) =
      (readValue before).map fun read => (read.1, read.2 ++ b :: after) :=
    readGroups_foreign h 0 0 before after
  fun_induction values before with
  | case1 before v rest hvalue ih =>
    rw [hvalue] at hread
    rw [values_of_read hread, ih (readGroups_foreign h 0 0 rest after)]
  | case2 before hvalue =>
    rw [hvalue] at hread
    exact values_of_unread hread

/-- The points of a polyline stay when more comes behind them; and behind a byte that no group is
written as, nothing is read. -/
theorem decode_append (s t : String) :
    decode s <+: decode (s ++ t) ∧
      ((∃ b ∈ s.toUTF8.toList, ¬IsGroupByte b) → decode (s ++ t) = decode s) := by
  have hbytes : (s ++ t).toUTF8.toList = s.toUTF8.toList ++ t.toUTF8.toList := by
    simp only [Text.Utf8.toList_toUTF8, String.toList_append, List.flatMap_append]
  rw [decode, decode, decodeBytes, decodeBytes, hbytes]
  constructor
  · obtain ⟨more, hmore⟩ := values_prefix s.toUTF8.toList t.toUTF8.toList
    rw [← hmore]
    exact track_prefix 0 0 _ more
  · rintro ⟨b, hb, hforeign⟩
    obtain ⟨before, after, hsplit⟩ := List.append_of_mem hb
    rw [hsplit, List.append_assoc, List.cons_append, values_foreign hforeign,
      values_foreign hforeign]

/-- A line break behind the first point keeps the second one from being read. -/
theorem decode_append_lineBreak :
    (∃ b ∈ "_p~iF~ps|U\n".toUTF8.toList, ¬IsGroupByte b) ∧
      decode ("_p~iF~ps|U\n" ++ "_ulLnnqC") = decode "_p~iF~ps|U\n" := by
  have hbreak : ∃ b ∈ "_p~iF~ps|U\n".toUTF8.toList, ¬IsGroupByte b := by
    rw [Text.Utf8.toList_toUTF8]
    exact ⟨10, by decide, by decide⟩
  exact ⟨hbreak, (decode_append "_p~iF~ps|U\n" "_ulLnnqC").2 hbreak⟩

end Transit.Polyline
