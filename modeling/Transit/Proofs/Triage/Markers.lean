import Transit.Proofs.Text.Search
import Transit.Triage

/-! # Triages with further markers

Whether a page redirects is no matter of markers, and of the markers only the set counts. So a
triage that knows more of them keeps each redirect and each expired session; it may take an internal
error for an expired session, and a normal page for one of the two.
-/
namespace Transit.Triage

variable {t t' : Triage} {markers markers' : List String} {cs : List Char} {c : ResponseClass}

/-- One of the markers stands in the text, up to the case of ASCII letters. -/
def Told (markers : List String) (cs : List Char) : Prop :=
  ∃ marker ∈ markers, Text.Mentions marker.toList cs

theorem mentions_iff : mentions markers cs = true ↔ Told markers cs := by
  rw [mentions, List.any_eq_true]
  exact exists_congr fun marker => and_congr_right fun _ => Text.containsFold_iff

theorem Told.mono (hsub : markers ⊆ markers') : Told markers cs → Told markers' cs := by
  rintro ⟨marker, hmem, htold⟩
  exact ⟨marker, hsub hmem, htold⟩

theorem mentions_mono (hsub : markers ⊆ markers') (h : mentions markers cs = true) :
    mentions markers' cs = true := mentions_iff.mpr ((mentions_iff.mp h).mono hsub)

/-- Order and repetition of markers make no difference. -/
theorem mentions_congr (h : ∀ marker, marker ∈ markers ↔ marker ∈ markers') (cs : List Char) :
    mentions markers cs = mentions markers' cs := by
  rw [Bool.eq_iff_iff]
  exact ⟨mentions_mono fun _ => (h _).mp, mentions_mono fun _ => (h _).mpr⟩

/-- What a page of one class may be for a triage that knows more markers. -/
def MayBecome : ResponseClass → ResponseClass → Prop
  | .redirect url, c => c = .redirect url
  | .sessionExpired, c => c = .sessionExpired
  | .internalError, c => c = .internalError ∨ c = .sessionExpired
  | .normal, c => ∀ url, c ≠ .redirect url

theorem MayBecome.eq_normal (h : MayBecome c .normal) : c = .normal := by
  cases c with
  | normal => rfl
  | redirect | sessionExpired => cases h
  | internalError => rcases h with h | h <;> cases h

theorem classify_mayBecome (hexpired : t.expiredMarkers ⊆ t'.expiredMarkers)
    (hinternal : t.internalMarkers ⊆ t'.internalMarkers) (body : String) (requested : Url) :
    MayBecome (t.classify body requested) (t'.classify body requested) := by
  have hexpired : t.isExpired body.toList = true → t'.isExpired body.toList = true :=
    mentions_mono hexpired
  have hinternal : t.isInternal body.toList = true → t'.isInternal body.toList = true :=
    mentions_mono hinternal
  rw [classify, classify]
  cases redirect? body.toList requested with
  | some url => rfl
  | none =>
    dsimp only
    by_cases hsession : t.isExpired body.toList = true
    · rw [if_pos hsession, if_pos (hexpired hsession)]
      rfl
    · rw [if_neg hsession]
      by_cases hpage : t.isInternal body.toList = true
      · rw [if_pos hpage, if_pos (hinternal hpage)]
        split
        · exact .inr rfl
        · exact .inl rfl
      · rw [if_neg hpage]
        split_ifs <;> exact nofun

/-- A triage with further markers goes by the set of all its markers, and what was no data before
is none with them. -/
theorem further_markers_extend (expired internal : List String) (body : String) (requested : Url) :
    let further := withExtra expired internal
    (further.isExpired body.toList = true ↔
      ∃ marker, (marker ∈ usualExpired ∨ marker ∈ expired) ∧
        Text.Mentions marker.toList body.toList) ∧
    (further.isInternal body.toList = true ↔
      ∃ marker, (marker ∈ usualInternal ∨ marker ∈ internal) ∧
        Text.Mentions marker.toList body.toList) ∧
    (∀ expired' internal' : List String, (∀ marker, marker ∈ expired ↔ marker ∈ expired') →
      (∀ marker, marker ∈ internal ↔ marker ∈ internal') →
      let again := withExtra expired' internal'
      again.isExpired body.toList = further.isExpired body.toList ∧
        again.isInternal body.toList = further.isInternal body.toList ∧
        again.classify body requested = further.classify body requested) ∧
    MayBecome (usual.classify body requested) (further.classify body requested) ∧
    (further.classify body requested = .normal → usual.classify body requested = .normal) := by
  intro further
  have hbecome : MayBecome (usual.classify body requested) (further.classify body requested) :=
    classify_mayBecome (List.subset_append_left _ _) (List.subset_append_left _ _) body requested
  refine ⟨?_, ?_, ?_, hbecome, fun hnormal => (hnormal ▸ hbecome).eq_normal⟩
  · simp only [← List.mem_append]
    exact mentions_iff
  · simp only [← List.mem_append]
    exact mentions_iff
  · intro expired' internal' hexpired hinternal again
    have hexpired : again.isExpired body.toList = further.isExpired body.toList :=
      mentions_congr (fun marker => by simp [again, further, withExtra, hexpired]) body.toList
    have hinternal : again.isInternal body.toList = further.isInternal body.toList :=
      mentions_congr (fun marker => by simp [again, further, withExtra, hinternal]) body.toList
    exact ⟨hexpired, hinternal, by rw [classify, classify, hexpired, hinternal]⟩

/-- A page that only a further marker knows, whatever the order and repetition of the markers; and a
page that no marker knows. -/
theorem further_markers_extend_by_session_id :
    let requested : Url :=
      ⟨"https", "", "", some (.domain "example.org"), none, false, .segments ["bin"], none, none⟩
    let further := withExtra ["sessionid invalid", "h9300"] []
    let again := withExtra ["h9300", "sessionid invalid", "h9300"] []
    usual.classify "ERROR: SessionID invalid" requested = .normal ∧
      further.classify "ERROR: SessionID invalid" requested = .sessionExpired ∧
      again.classify "ERROR: SessionID invalid" requested = .sessionExpired ∧
      further.classify "[]" requested = .normal ∧ usual.classify "[]" requested = .normal := by
  intro requested further again
  have hset : ∀ marker, marker ∈ ["sessionid invalid", "h9300"] ↔
      marker ∈ ["h9300", "sessionid invalid", "h9300"] := by
    intro marker
    simp only [List.mem_cons, List.not_mem_nil]
    tauto
  have hclass : further.classify "ERROR: SessionID invalid" requested = .sessionExpired := by
    decide +kernel
  have hdata : further.classify "[]" requested = .normal := by decide +kernel
  obtain ⟨-, -, hsame, -, -⟩ := further_markers_extend ["sessionid invalid", "h9300"] []
    "ERROR: SessionID invalid" requested
  obtain ⟨-, -, -, -, hnormal⟩ := further_markers_extend ["sessionid invalid", "h9300"] [] "[]"
    requested
  obtain ⟨-, -, hagain⟩ := hsame _ [] hset fun _ => Iff.rfl
  exact ⟨by decide +kernel, hclass, hagain.trans hclass, hdata, hnormal hdata⟩

end Transit.Triage
