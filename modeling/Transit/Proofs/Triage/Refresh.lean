import Transit.Proofs.Text.Digits
import Transit.Proofs.Text.Search
import Transit.Triage

/-! # Pages that refresh to a target

The first meta tag of a page decides where a refresh goes, whatever is before and behind it. Each
search in the tag stops at the right place, as what stands before it lacks a character of what is
looked for: no attribute before the content has a `c`, and nothing before the address has a `u`. So
the target may hold every word that the searches look for.
-/
namespace Transit.Triage

open Text (Spells Caseless isBlank isDigit sameLetter caseless_of_letters)

variable {pre cs rest : List Char} {c : Char} {p q : Char → Bool}

/-- How the value of an attribute is enclosed. -/
inductive Quoting
  | bare
  | single
  | double
deriving DecidableEq

def Quoting.mark : Quoting → List Char
  | bare => []
  | single => ['\'']
  | double => ['"']

def Quoting.enclose (q : Quoting) (value : List Char) : List Char := q.mark ++ (value ++ q.mark)

/-- The parts of a meta tag that refreshes the page after some seconds, from a target. Its words are
spelled in any case of letters; blanks may stand before the address, unless the content is bare. -/
structure Refresh where
  opening : List Char
  equiv : List Char
  refresh : List Char
  content : List Char
  seconds : List Char
  gap : List Char
  url : List Char
  target : List Char
  equivQuoting : Quoting
  quoting : Quoting
  contentFirst : Bool
  opening_spelled : Spells metaMark opening
  equiv_spelled : Spells "http-equiv".toList equiv
  refresh_spelled : Spells "refresh".toList refresh
  content_spelled : Spells "content".toList content
  url_spelled : Spells "url=".toList url
  seconds_digits : ∀ c ∈ seconds, isDigit c = true
  gap_blank : ∀ c ∈ gap, isBlank c = true
  target_ne_nil : target ≠ []
  target_unquoted : ∀ c ∈ target, isQuote c = false
  target_open : ∀ c ∈ target, isTagEnd c = false
  target_stripped : Text.strip target = target
  bare_solid : quoting = .bare → gap = [] ∧ ∀ c ∈ target, isBlank c = false

theorem caseless_isQuote : Caseless isQuote := caseless_of_letters (by decide)

theorem caseless_isTagEnd : Caseless isTagEnd := caseless_of_letters (by decide)

theorem isQuote_iff : isQuote c = true ↔ c = '\'' ∨ c = '"' := by simp [isQuote]

/-- A class of characters without quotes. -/
theorem isQuote_eq_false (hsingle : q '\'' = false) (hdouble : q '"' = false) (hc : q c = true) :
    isQuote c = false := by
  rw [← Bool.not_eq_true, isQuote_iff]
  rintro (rfl | rfl)
  · exact Bool.false_ne_true (hsingle.symm.trans hc)
  · exact Bool.false_ne_true (hdouble.symm.trans hc)

/-- A class of characters without the end of a tag. -/
theorem isTagEnd_eq_false (hend : q '>' = false) (hc : q c = true) : isTagEnd c = false := by
  refine beq_eq_false_iff_ne.mpr ?_
  rintro rfl
  exact Bool.false_ne_true (hend.symm.trans hc)

/-- A class of characters without a letter, in neither case of it. -/
theorem sameLetter_eq_false {m : Char} (hq : Caseless q) (hm : q m = false) (hc : q c = true) :
    sameLetter m c = false := by
  rw [← Bool.not_eq_true]
  intro hsame
  exact Bool.false_ne_true (hm.symm.trans ((hq.eq_of_sameLetter hsame).trans hc))

theorem Quoting.mark_quotes (q : Quoting) : ∀ c ∈ q.mark, isQuote c = true := by
  cases q <;> simp [mark, isQuote]

theorem unquote_eq_self (h : ∀ c ∈ cs, isQuote c = false) : unquote cs = cs := by
  rw [unquote, Text.dropWhile_eq_self h, Text.dropEndWhile_eq_self h]

/-! ## The first meta tag -/

theorem metaMark_eq : metaMark = '<' :: "meta".toList := by decide

/-- Without a mark, what is before a character that no mark goes across has no meta tag. -/
theorem metaTags_append {x : Char} (hx : "meta".toList.any (sameLetter · x) = false)
    (h : ¬Text.Mentions metaMark pre) (rest : List Char) :
    metaTags (pre ++ x :: rest) = metaTags (x :: rest) := by
  rw [← Text.containsFold_iff] at h
  induction pre with
  | nil => rfl
  | cons c pre ih =>
    rw [Text.containsFold, Text.afterFold?] at h
    split at h
    · exact absurd rfl h
    · rename_i hstarts
      have hnone : Text.startsFold metaMark (c :: (pre ++ x :: rest)) = false := by
        rw [metaMark_eq, Text.startsFold] at hstarts ⊢
        rw [Text.startsFold_append_cons hx, Bool.eq_false_iff]
        exact hstarts
      rw [List.cons_append, metaTags, hnone, if_neg Bool.false_ne_true, ih h]

theorem metaTags_tag {opening tag : List Char} (hopening : Spells metaMark opening)
    (htag : ∀ c ∈ opening ++ tag, isTagEnd c = false) (post : List Char) :
    metaTags (opening ++ (tag ++ '>' :: post)) = (opening ++ tag) :: metaTags ('>' :: post) := by
  have hstarts := hopening.startsFold (tag ++ '>' :: post)
  cases hopening with
  | @cons _ x _ opening _ _ =>
    have hinside : ∀ c ∈ opening ++ tag, (!isTagEnd c) = true := fun c hc => by
      simp [htag c (List.mem_cons_of_mem x hc)]
    rw [List.cons_append] at hstarts ⊢
    rw [metaTags, if_pos hstarts, ← List.append_assoc, List.takeWhile_append_of_pos hinside,
      List.dropWhile_append_of_pos hinside, List.takeWhile_cons_of_neg (by decide),
      List.dropWhile_cons_of_neg (by decide), List.append_nil, List.cons_append]

theorem opening_cons {opening : List Char} (h : Spells metaMark opening) :
    ∃ x rest, opening = x :: rest ∧ "meta".toList.any (sameLetter · x) = false := by
  rw [metaMark_eq] at h
  cases h with
  | @cons _ x _ rest hx _ =>
    have hbracket : (sameLetter · x) = (sameLetter · '<') :=
      funext fun m => ((Text.caseless_sameLetter m).eq_of_sameLetter hx).symm
    exact ⟨x, rest, rfl, hbracket ▸ (by decide)⟩

/-! ## The value of an attribute -/

/-- Right behind the name of an attribute, the first character decides where its value ends. -/
theorem attributeValue?_cons (hc : isBlank c = false) (rest : List Char) :
    attributeValue? ('=' :: c :: rest) =
      if isQuote c then (Text.splitAt? (· == c) rest).map Prod.fst
      else some ((c :: rest).takeWhile (!isBlank ·)) := by
  have hsplit : Text.splitAt? (· == '=') ('=' :: c :: rest) = some ([], c :: rest) :=
    Text.splitAt?_append (p := (· == '=')) (List.forall_mem_nil _) rfl _
  rw [attributeValue?, hsplit]
  simp only [List.all_nil, Bool.not_true, Bool.false_eq_true, if_false, Text.stripStart_cons hc]

theorem attributeValue?_quoted (hc : isQuote c = true) (h : ∀ x ∈ cs, isQuote x = false)
    (rest : List Char) : attributeValue? ('=' :: c :: (cs ++ c :: rest)) = some cs := by
  have hsolid : isBlank c = false := by
    rcases isQuote_iff.mp hc with rfl | rfl <;> decide
  have hinside : ∀ x ∈ cs, (x == c) = false := fun x hx =>
    beq_eq_false_iff_ne.mpr fun hxc => by simp [← hxc, h x hx] at hc
  rw [attributeValue?_cons hsolid, if_pos hc, Text.splitAt?_append hinside (beq_self_eq_true c),
    Option.map_some]

theorem attributeValue?_bare (hc : isQuote c = false) (h : ∀ x ∈ c :: cs, isBlank x = false)
    (hrest : rest.takeWhile (!isBlank ·) = []) :
    attributeValue? ('=' :: (c :: cs ++ rest)) = some (c :: cs) := by
  have hsolid : ∀ x ∈ c :: cs, (!isBlank x) = true := fun x hx => by simp [h x hx]
  rw [List.cons_append, attributeValue?_cons (h c List.mem_cons_self), hc,
    if_neg Bool.false_ne_true, ← List.cons_append, List.takeWhile_append_of_pos hsolid, hrest,
    List.append_nil]

namespace Refresh

variable (r : Refresh)

def value : List Char := r.seconds ++ ';' :: (r.gap ++ (r.url ++ r.target))

def rule : List Char := r.equiv ++ '=' :: r.equivQuoting.enclose r.refresh

def assignment : List Char := r.content ++ '=' :: r.quoting.enclose r.value

/-- The two attributes, in either order. -/
def attributes : List Char :=
  if r.contentFirst then r.assignment ++ ' ' :: r.rule else r.rule ++ ' ' :: r.assignment

def tag : List Char := r.opening ++ ' ' :: r.attributes

def text : List Char := r.tag ++ ['>']

/-- What stands in the tag before the content. -/
def before : List Char := r.opening ++ ' ' :: (if r.contentFirst then [] else r.rule ++ [' '])

def behind : List Char := if r.contentFirst then ' ' :: r.rule else []

/-- A class of characters that no part of the value has, the value does not have. -/
theorem value_none (hp : Caseless p) (hseconds : ∀ c, isDigit c = true → p c = false)
    (hmark : p ';' = false) (hgap : ∀ c ∈ r.gap, p c = false)
    (hurl : "url=".toList.any p = false) (htarget : ∀ c ∈ r.target, p c = false) :
    ∀ c ∈ r.value, p c = false := by
  simp only [value, List.forall_mem_append, List.forall_mem_cons]
  exact ⟨fun c hc => hseconds c (r.seconds_digits c hc), hmark, hgap,
    r.url_spelled.none hp hurl, htarget⟩

theorem enclose_none {q : Quoting} (hmark : ∀ c, isQuote c = true → p c = false)
    (h : ∀ c ∈ cs, p c = false) : ∀ c ∈ q.enclose cs, p c = false := by
  have hquotes : ∀ c ∈ q.mark, p c = false := fun c hc => hmark c (q.mark_quotes c hc)
  simp only [Quoting.enclose, List.forall_mem_append]
  exact ⟨hquotes, h, hquotes⟩

theorem rule_none (hp : Caseless p) (hmark : ∀ c, isQuote c = true → p c = false)
    (hassign : p '=' = false) (hequiv : "http-equiv".toList.any p = false)
    (hrefresh : "refresh".toList.any p = false) : ∀ c ∈ r.rule, p c = false := by
  simp only [rule, List.forall_mem_append, List.forall_mem_cons]
  exact ⟨r.equiv_spelled.none hp hequiv, hassign,
    enclose_none hmark (r.refresh_spelled.none hp hrefresh)⟩

theorem tag_open : ∀ c ∈ r.tag, isTagEnd c = false := by
  have hvalue : ∀ c ∈ r.value, isTagEnd c = false :=
    r.value_none caseless_isTagEnd (fun _ => isTagEnd_eq_false rfl) rfl
      (fun c hc => isTagEnd_eq_false rfl (r.gap_blank c hc)) (by decide) r.target_open
  have hrule : ∀ c ∈ r.rule, isTagEnd c = false :=
    r.rule_none caseless_isTagEnd (fun _ => isTagEnd_eq_false rfl) rfl (by decide) (by decide)
  have hassignment : ∀ c ∈ r.assignment, isTagEnd c = false := by
    simp only [assignment, List.forall_mem_append, List.forall_mem_cons]
    exact ⟨r.content_spelled.none caseless_isTagEnd (by decide), rfl,
      enclose_none (fun _ => isTagEnd_eq_false rfl) hvalue⟩
  simp only [tag, attributes, List.forall_mem_append, List.forall_mem_cons]
  refine ⟨r.opening_spelled.none caseless_isTagEnd (by decide), rfl, ?_⟩
  split
  all_goals simp only [List.forall_mem_append, List.forall_mem_cons]
  · exact ⟨hassignment, rfl, hrule⟩
  · exact ⟨hrule, rfl, hassignment⟩

theorem tag_eq_content :
    r.tag = r.before ++ (r.content ++ ('=' :: (r.quoting.enclose r.value ++ r.behind))) := by
  simp only [tag, attributes, before, behind, assignment]
  split <;> simp

theorem tag_eq_rule : ∃ before behind, r.tag = before ++ (r.rule ++ behind) := by
  simp only [tag, attributes]
  split
  · exact ⟨r.opening ++ ' ' :: (r.assignment ++ [' ']), [], by simp⟩
  · exact ⟨r.opening ++ [' '], ' ' :: r.assignment, by simp⟩

theorem tag_refreshes : Text.containsFold "http-equiv".toList r.tag = true ∧
    Text.containsFold "refresh".toList r.tag = true := by
  obtain ⟨before, behind, htag⟩ := r.tag_eq_rule
  have hequiv : r.tag =
      before ++ (r.equiv ++ ('=' :: r.equivQuoting.enclose r.refresh ++ behind)) := by
    rw [htag, rule, List.append_assoc]
  have hrefresh : r.tag = (before ++ (r.equiv ++ '=' :: r.equivQuoting.mark)) ++
      (r.refresh ++ (r.equivQuoting.mark ++ behind)) := by
    rw [htag, rule, Quoting.enclose]
    simp
  exact ⟨hequiv ▸ Text.containsFold_append r.equiv_spelled _ _,
    hrefresh ▸ Text.containsFold_append r.refresh_spelled _ _⟩

/-- Before the content there is no `c` in the tag. -/
theorem before_none : ∀ c ∈ r.before, sameLetter 'c' c = false := by
  have hcase := Text.caseless_sameLetter 'c'
  have hrule : ∀ c ∈ r.rule, sameLetter 'c' c = false :=
    r.rule_none hcase (fun _ => sameLetter_eq_false caseless_isQuote rfl) rfl (by decide)
      (by decide)
  simp only [before, List.forall_mem_append, List.forall_mem_cons]
  refine ⟨r.opening_spelled.none hcase (by decide), rfl, ?_⟩
  split
  · exact nofun
  · simp only [List.forall_mem_append, List.forall_mem_singleton]
    exact ⟨hrule, rfl⟩

theorem afterFold_content : Text.afterFold? "content".toList r.tag =
    some ('=' :: (r.quoting.enclose r.value ++ r.behind)) := by
  have hword : "content".toList = 'c' :: "ontent".toList := by decide
  rw [tag_eq_content, hword]
  exact Text.afterFold?_append r.before_none (hword ▸ r.content_spelled) _

theorem value_unquoted : ∀ c ∈ r.value, isQuote c = false :=
  r.value_none caseless_isQuote (fun _ => isQuote_eq_false rfl rfl) rfl
    (fun c hc => isQuote_eq_false rfl rfl (r.gap_blank c hc)) (by decide) r.target_unquoted

theorem value_solid (h : r.quoting = .bare) : ∀ c ∈ r.value, isBlank c = false := by
  obtain ⟨hgap, htarget⟩ := r.bare_solid h
  exact r.value_none Text.caseless_isBlank (fun _ => Text.isBlank_of_isDigit) rfl
    (hgap ▸ List.forall_mem_nil _) (by decide) htarget

theorem takeWhile_behind : r.behind.takeWhile (!isBlank ·) = [] := by
  rw [behind]
  split <;> rfl

theorem attributeValue_content :
    attributeValue? ('=' :: (r.quoting.enclose r.value ++ r.behind)) = some r.value := by
  cases hquoting : r.quoting with
  | bare =>
    have hunquoted := r.value_unquoted
    have hsolid := r.value_solid hquoting
    obtain ⟨c, cs, hvalue⟩ : ∃ c cs, r.value = c :: cs :=
      List.exists_cons_of_ne_nil (List.append_ne_nil_of_right_ne_nil _ (List.cons_ne_nil _ _))
    rw [hvalue] at hunquoted hsolid ⊢
    rw [Quoting.enclose, Quoting.mark, List.nil_append, List.append_nil]
    exact attributeValue?_bare (hunquoted c List.mem_cons_self) hsolid r.takeWhile_behind
  | single | double =>
    rw [Quoting.enclose, Quoting.mark, List.singleton_append, List.cons_append, List.append_assoc]
    exact attributeValue?_quoted rfl r.value_unquoted r.behind

/-- Before the address there is no `u` in the value. -/
theorem afterFold_url : Text.afterFold? "url=".toList r.value = some r.target := by
  have hword : "url=".toList = 'u' :: "rl=".toList := by decide
  have hdigit : Caseless isDigit := caseless_of_letters (by decide)
  have hvalue : r.value = (r.seconds ++ ';' :: r.gap) ++ (r.url ++ r.target) := by simp [value]
  rw [hvalue, hword]
  refine Text.afterFold?_append ?_ (hword ▸ r.url_spelled) r.target
  simp only [List.forall_mem_append, List.forall_mem_cons]
  exact ⟨fun c hc => sameLetter_eq_false hdigit rfl (r.seconds_digits c hc), rfl,
    fun c hc => sameLetter_eq_false Text.caseless_isBlank rfl (r.gap_blank c hc)⟩

theorem refreshTarget_tag : refreshTarget? r.tag = some r.target := by
  obtain ⟨hequiv, hrefresh⟩ := r.tag_refreshes
  rw [refreshTarget?, hequiv, hrefresh]
  simp only [Bool.and_true, if_true, r.afterFold_content, r.attributeValue_content,
    r.afterFold_url, Option.map_some, r.target_stripped, unquote_eq_self r.target_unquoted]

/-- The tag is the first one, and it ends at its bracket. -/
theorem metaTags_text (h : ¬Text.Mentions metaMark pre) (post : List Char) :
    metaTags (pre ++ (r.text ++ post)) = r.tag :: metaTags ('>' :: post) := by
  obtain ⟨x, rest, hopening, hx⟩ := opening_cons r.opening_spelled
  have htext : r.text ++ post = r.opening ++ (' ' :: r.attributes ++ '>' :: post) := by
    simp [text, tag]
  have hskip : metaTags (pre ++ (r.text ++ post)) = metaTags (r.text ++ post) := by
    rw [htext, hopening, List.cons_append, metaTags_append hx h]
  rw [hskip, htext, metaTags_tag r.opening_spelled r.tag_open post, tag]

end Refresh

/-- A page whose first meta tag is a refresh goes to the target of that tag, in its own letter case:
the target is joined to the requested address, with plain ampersands. -/
theorem refresh_redirects (r : Refresh) (pre post : List Char) (requested : Url)
    (h : ¬Text.Mentions metaMark pre) :
    metaTarget? (pre ++ (r.text ++ post)) = some r.target ∧
      redirect? (pre ++ (r.text ++ post)) requested =
        requested.join? (String.ofList (Text.replaceAll "&amp;".toList ['&'] r.target)) := by
  have htarget : metaTarget? (pre ++ (r.text ++ post)) = some r.target := by
    rw [metaTarget?, r.metaTags_text h, List.findSome?_cons, r.refreshTarget_tag]
  have hsome : (Text.replaceAll "&amp;".toList ['&'] r.target).isEmpty = false :=
    List.isEmpty_eq_false_iff.mpr (Text.replaceAll_ne_nil (List.cons_ne_nil _ _) r.target_ne_nil)
  refine ⟨htarget, ?_⟩
  rw [redirect?, htarget]
  simp only [HOrElse.hOrElse, OrElse.orElse, Option.orElse, r.target_stripped, hsome,
    Bool.false_eq_true, if_false]

/-- The tag of a page that refreshes at once, in capitals. -/
def capitalRefresh : Refresh where
  opening := "<META".toList
  equiv := "HTTP-EQUIV".toList
  refresh := "Refresh".toList
  content := "CONTENT".toList
  seconds := ['0']
  gap := [' ']
  url := "URL=".toList
  target := "/bin/query.exe/dn?seqnr=2&amp;ident=ab".toList
  equivQuoting := .double
  quoting := .double
  contentFirst := false
  opening_spelled := by decide
  equiv_spelled := by decide
  refresh_spelled := by decide
  content_spelled := by decide
  url_spelled := by decide
  seconds_digits := List.forall_mem_singleton.mpr rfl
  gap_blank := List.forall_mem_singleton.mpr rfl
  target_ne_nil := by decide
  target_unquoted := by simp [isQuote]
  target_open := by simp [isTagEnd]
  target_stripped := by decide
  bare_solid := nofun

theorem capital_refresh_redirects :
    let page := "<html><head><META HTTP-EQUIV=\"Refresh\" CONTENT=\"0; " ++
      "URL=/bin/query.exe/dn?seqnr=2&amp;ident=ab\"></head></html>"
    let host := Url.Host.domain "reiseauskunft.example.org"
    let requested : Url :=
      ⟨"https", "", "", host, none, false, .segments ["bin", "query.exe", "dn"], some "ld=1", none⟩
    metaTarget? page.toList = some "/bin/query.exe/dn?seqnr=2&amp;ident=ab".toList ∧
      (redirect? page.toList requested).map Url.text =
        some "https://reiseauskunft.example.org/bin/query.exe/dn?seqnr=2&ident=ab" := by
  intro page host requested
  have hpage : page.toList =
      "<html><head>".toList ++ (capitalRefresh.text ++ "</head></html>".toList) := by decide +kernel
  obtain ⟨htarget, hredirect⟩ := refresh_redirects capitalRefresh "<html><head>".toList
    "</head></html>".toList requested (by decide)
  rw [hpage, htarget, hredirect]
  exact ⟨rfl, by decide +kernel⟩

end Transit.Triage
