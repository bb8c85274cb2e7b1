import Transit.Proofs.Text.Search
import Transit.Triage

/-! # Candidates for a redirect

What a page may redirect to are the targets of its refresh tags, in order, and then that of a
script. Tags without a target are passed over, but of the candidates only the first one is tried: if
it leads nowhere, those behind it are hidden.
-/
namespace Transit.Triage

variable {body target : List Char} {requested url : Url}

/-- The targets of refresh tags, in order, and behind them the one of a script. -/
def candidates (body : List Char) : List (List Char) :=
  (metaTags body).filterMap refreshTarget? ++ (scriptTarget? body).toList

/-- The target is more than blanks, and joined to the requested address it gives another one. -/
def LeadsTo (requested : Url) (target : List Char) (url : Url) : Prop :=
  Text.strip target ≠ [] ∧ requested.join?
    (String.ofList (Text.replaceAll "&amp;".toList ['&'] (Text.strip target))) = some url

def IsUsable (requested : Url) (target : List Char) : Prop := ∃ url, LeadsTo requested target url

theorem isUsable_iff : IsUsable requested target ↔
    Text.strip target ≠ [] ∧ (requested.join?
      (String.ofList (Text.replaceAll "&amp;".toList ['&'] (Text.strip target)))).isSome := by
  rw [Option.isSome_iff_exists, ← exists_and_left]
  rfl

instance : Decidable (IsUsable requested target) := decidable_of_iff _ isUsable_iff.symm

theorem head?_candidates (body : List Char) :
    (candidates body).head? = (metaTarget? body <|> scriptTarget? body) := by
  rw [candidates, List.head?_append, List.head?_filterMap, metaTarget?]
  cases (metaTags body).findSome? refreshTarget? <;> cases scriptTarget? body <;> rfl

/-- Only the first candidate is tried. -/
theorem redirect?_eq_some_iff : redirect? body requested = some url ↔
    ∃ target, (candidates body).head? = some target ∧ LeadsTo requested target url := by
  rw [head?_candidates, redirect?]
  split
  case h_1 hnone => simp [hnone]
  case h_2 target hfirst =>
    simp only [hfirst, Option.some.injEq, exists_eq_left']
    by_cases hblank : Text.strip target = []
    · simp [LeadsTo, hblank, Text.replaceAll]
    · have htext : (Text.replaceAll "&amp;".toList ['&'] (Text.strip target)).isEmpty = false :=
        List.isEmpty_eq_false_iff.mpr (Text.replaceAll_ne_nil (List.cons_ne_nil _ _) hblank)
      simp only [htext, Bool.false_eq_true, if_false, LeadsTo, ne_eq, hblank, not_false_eq_true,
        true_and]

/-- An unusable first candidate hides all others. -/
theorem redirect?_eq_none (hfirst : (candidates body).head? = some target)
    (hunusable : ¬IsUsable requested target) : redirect? body requested = none := by
  rw [Option.eq_none_iff_forall_ne_some]
  intro url hurl
  obtain ⟨first, hhead, hleads⟩ := redirect?_eq_some_iff.mp hurl
  rw [hfirst, Option.some.injEq] at hhead
  exact hunusable ⟨url, hhead ▸ hleads⟩

theorem classify_eq_redirect_iff (t : Triage) (body : String) :
    t.classify body requested = .redirect url ↔ redirect? body.toList requested = some url := by
  rw [classify]
  split
  case h_1 found hfound => rw [hfound, ResponseClass.redirect.injEq, Option.some.injEq]
  case h_2 hnone =>
    rw [hnone]
    split_ifs <;> simp

theorem exists_redirect_iff (t : Triage) (body : String) :
    (∃ url, redirect? body.toList requested = some url ∧
      t.classify body requested = .redirect url) ↔
        ∃ target, (candidates body.toList).head? = some target ∧ IsUsable requested target := by
  simp only [classify_eq_redirect_iff, and_self, redirect?_eq_some_iff]
  constructor
  · rintro ⟨url, target, hfirst, hleads⟩
    exact ⟨target, hfirst, url, hleads⟩
  · rintro ⟨target, hfirst, url, hleads⟩
    exact ⟨url, target, hfirst, hleads⟩

/-- A page with a usable candidate redirects if and only if no unusable candidate is the first. It
goes to where the first candidate leads. -/
theorem usable_candidate_found_iff (t : Triage) (body : String) (requested : Url)
    (before behind : List (List Char)) (target : List Char)
    (h : candidates body.toList = before ++ target :: behind)
    (husable : IsUsable requested target) :
    ((∃ url, redirect? body.toList requested = some url ∧
      t.classify body requested = .redirect url) ↔
        ∀ first ∈ before.head?, IsUsable requested first) ∧
    ∀ url, redirect? body.toList requested = some url →
      LeadsTo requested (before.head?.getD target) url := by
  have hhead : (candidates body.toList).head? = some (before.head?.getD target) := by
    rw [h]
    cases before <;> rfl
  refine ⟨?_, fun url hurl => ?_⟩
  · rw [exists_redirect_iff, hhead]
    cases before with
    | nil => simp [husable]
    | cons first before => simp
  · obtain ⟨first, hfirst, hleads⟩ := redirect?_eq_some_iff.mp hurl
    rw [hhead] at hfirst
    exact Option.some.inj hfirst ▸ hleads

/-- Tags without a target are no candidates, and of two usable ones the first decides. -/
theorem usable_candidate_found_behind_another :
    let page := "<meta charset=utf-8><meta http-equiv=\"refresh\" content=\"30\">" ++
      "<meta http-equiv=refresh content=0;url=a.html><script>location.href = 'b.html'</script>"
    let requested : Url :=
      ⟨"https", "", "", some (.domain "example.org"), none, false, .segments ["bin"], none, none⟩
    candidates page.toList = ["a.html".toList, "b.html".toList] ∧
      ∃ url, redirect? page.toList requested = some url ∧
        usual.classify page requested = .redirect url ∧
        LeadsTo requested "a.html".toList url := by
  intro page requested
  have hpage : candidates page.toList = ["a.html".toList, "b.html".toList] := by decide +kernel
  obtain ⟨hfound, hleads⟩ := usable_candidate_found_iff usual page requested ["a.html".toList] []
    "b.html".toList hpage (by decide +kernel)
  have hfirst : IsUsable requested "a.html".toList := by decide +kernel
  obtain ⟨url, hurl, hclass⟩ := hfound.mpr fun first h => Option.some.inj h ▸ hfirst
  exact ⟨hpage, url, hurl, hclass, hleads url hurl⟩

/-- A target that is empty, or that cannot be joined, hides a usable one in a further tag or in a
script. -/
theorem usable_candidate_hidden :
    let requested : Url :=
      ⟨"https", "", "", some (.domain "example.org"), none, false, .segments ["bin"], none, none⟩
    let blank := "<meta http-equiv=refresh content=\"0; url=\">"
    let unjoined := "<meta http-equiv=refresh content=\"0; url=http://[\">"
    let tag := "<meta http-equiv=refresh content=\"0; url=next.html\">"
    let script := "<script>location.href = \"next.html\"</script>"
    ∀ page ∈ [blank ++ tag, unjoined ++ tag, blank ++ script],
      (∃ target ∈ candidates page.toList, IsUsable requested target) ∧
        redirect? page.toList requested = none ∧
          ∀ url, usual.classify page requested ≠ .redirect url := by
  intro requested blank unjoined tag script page hpage
  have hpair : ∃ first, candidates page.toList = [first, "next.html".toList] ∧
      ¬IsUsable requested first := by
    simp only [List.mem_cons, List.not_mem_nil, or_false] at hpage
    rcases hpage with rfl | rfl | rfl
    · exact ⟨[], by decide +kernel, by decide +kernel⟩
    · exact ⟨"http://[".toList, by decide +kernel, by decide +kernel⟩
    · exact ⟨[], by decide +kernel, by decide +kernel⟩
  obtain ⟨first, hcandidates, hunusable⟩ := hpair
  have hnone : redirect? page.toList requested = none :=
    redirect?_eq_none (by rw [hcandidates, List.head?_cons]) hunusable
  refine ⟨⟨"next.html".toList, by simp [hcandidates], by decide +kernel⟩, hnone, fun url h => ?_⟩
  rw [classify_eq_redirect_iff, hnone] at h
  cases h

end Transit.Triage
