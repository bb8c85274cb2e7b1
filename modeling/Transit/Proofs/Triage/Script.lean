import Mathlib.Order.Bounds.Defs
import Transit.Proofs.Text.Search
import Transit.Triage

/-! # Scripts that go to another page

A script goes to a quoted text behind an equals sign or an opening bracket, right behind one of the
marks. The search goes through the ends of all marks, in order, and what follows an end may be
anything: the first place that fits decides, and all before it are passed over.
-/
namespace Transit.Triage

open Text (Spells isBlank)

variable {body before rest target : List Char} {places finds : List Nat}

/-- A quoted text behind an equals sign or an opening bracket, and whatever follows it. -/
structure Assignment where
  gap : List Char
  opener : Char
  inner : List Char
  quote : Char
  target : List Char
  behind : List Char
  gap_blank : ∀ c ∈ gap, isBlank c = true
  opener_mem : opener = '=' ∨ opener = '('
  inner_blank : ∀ c ∈ inner, isBlank c = true
  quote_mem : quote = '\'' ∨ quote = '"'
  target_unquoted : quote ∉ target

def Assignment.text (a : Assignment) : List Char :=
  a.gap ++ a.opener :: (a.inner ++ a.quote :: (a.target ++ a.quote :: a.behind))

theorem quotedTarget?_text (a : Assignment) : quotedTarget? a.text = some a.target := by
  have hopener : isBlank a.opener = false := by rcases a.opener_mem with h | h <;> rw [h] <;> decide
  have hopens : (a.opener == '=' || a.opener == '(') = true := by simpa using a.opener_mem
  have hsolid : isBlank a.quote = false := by rcases a.quote_mem with h | h <;> rw [h] <;> decide
  have hquote : isQuote a.quote = true := by simpa [isQuote] using a.quote_mem
  have hinside : ∀ c ∈ a.target, (c == a.quote) = false := fun c hc =>
    beq_eq_false_iff_ne.mpr fun heq => a.target_unquoted (heq ▸ hc)
  rw [Assignment.text, quotedTarget?, Text.stripStart_append a.gap_blank hopener]
  simp only [hopens, if_true, Text.stripStart_append a.inner_blank hsolid, hquote]
  rw [Text.splitAt?_append hinside (beq_self_eq_true a.quote), Option.map_some]

theorem exists_assignment_of_quotedTarget? (h : quotedTarget? rest = some target) :
    ∃ a : Assignment, a.text = rest ∧ a.target = target := by
  obtain ⟨gap, hgap, hrest⟩ := Text.exists_gap_of_stripStart rest
  rw [quotedTarget?] at h
  split at h
  case h_1 opener behind hstripped =>
    rw [hstripped] at hrest
    split at h
    · rename_i hopener
      obtain ⟨inner, hinner, hbehind⟩ := Text.exists_gap_of_stripStart behind
      split at h
      · rename_i quote cs hquoted
        rw [hquoted] at hbehind
        split at h
        · rename_i hquote
          obtain ⟨⟨before, after⟩, hsplit, rfl⟩ := Option.map_eq_some_iff.mp h
          obtain ⟨x, hx, hbefore, hcs⟩ := Text.splitAt?_eq_some_iff.mp hsplit
          rw [beq_iff_eq.mp hx] at hcs
          refine ⟨⟨gap, opener, inner, quote, before, after, hgap, by simpa using hopener, hinner,
            by simpa [isQuote] using hquote, fun hmem => ?_⟩, ?_, rfl⟩
          · exact Bool.false_ne_true ((hbefore quote hmem).symm.trans (beq_self_eq_true quote))
          · rw [hrest, hbehind, hcs, Assignment.text]
        · cases h
      · cases h
    · cases h
  case h_2 => cases h

theorem quotedTarget?_iff :
    quotedTarget? rest = some target ↔ ∃ a : Assignment, a.text = rest ∧ a.target = target := by
  refine ⟨exists_assignment_of_quotedTarget?, ?_⟩
  rintro ⟨a, rfl, rfl⟩
  exact quotedTarget?_text a

/-! ## Places behind marks -/

/-- One of the marks stands at the end, in any case of letters. -/
def EndsWithMark (before : List Char) : Prop :=
  ∃ mark ∈ scriptMarks, ∃ front spelled, Spells mark spelled ∧ before = front ++ spelled

theorem endsMark_reverse_iff : endsMark before.reverse = true ↔ EndsWithMark before := by
  rw [endsMark, List.any_eq_true]
  refine exists_congr fun mark => and_congr_right fun _ => ?_
  rw [Text.startsFold_iff]
  constructor
  · rintro ⟨spelled, rest, hspells, hbefore⟩
    have hback : Spells mark.reverse.reverse spelled.reverse := List.forall₂_reverse_iff.mpr hspells
    rw [List.reverse_reverse] at hback
    refine ⟨rest.reverse, spelled.reverse, hback, ?_⟩
    rw [← List.reverse_append, ← hbefore, List.reverse_reverse]
  · rintro ⟨front, spelled, hspells, rfl⟩
    exact ⟨spelled.reverse, front.reverse, List.forall₂_reverse_iff.mpr hspells,
      List.reverse_append⟩

def MarkEndsAt (body : List Char) (e : Nat) : Prop :=
  ∃ before rest, body = before ++ rest ∧ before.length = e ∧ EndsWithMark before

/-- A mark ends at this place, and from there on the target is assigned. -/
def TargetAt (body : List Char) (e : Nat) (target : List Char) : Prop :=
  ∃ before, ∃ a : Assignment,
    body = before ++ a.text ∧ before.length = e ∧ EndsWithMark before ∧ a.target = target

/-- The search for marks tells every place where one ends, in order, and no other place. -/
structure Reports (body : List Char) (finds : List Nat) : Prop where
  sorted : finds.Pairwise (· ≤ ·)
  mem_iff : ∀ e, e ∈ finds ↔ MarkEndsAt body e

/-- The target at the first one of some places that has one. -/
def targetAmong? (body : List Char) (places : List Nat) : Option (List Char) :=
  places.findSome? fun e => quotedTarget? (body.drop e)

def markEnds (body : List Char) : List Nat :=
  (List.range (body.length + 1)).filter fun e => endsMark (body.take e).reverse

theorem reports_markEnds (body : List Char) : Reports body (markEnds body) where
  sorted := List.pairwise_le_range.filter _
  mem_iff e := by
    rw [markEnds, List.mem_filter, List.mem_range, endsMark_reverse_iff]
    constructor
    · rintro ⟨hlt, hmark⟩
      exact ⟨body.take e, body.drop e, (List.take_append_drop e body).symm,
        List.length_take_of_le (by omega), hmark⟩
    · rintro ⟨before, rest, rfl, rfl, hmark⟩
      rw [List.take_left, List.length_append]
      exact ⟨by omega, hmark⟩

/-- A search that goes on character by character stops at the same place as one that goes from mark
to mark. -/
theorem scriptTargetFrom?_eq (before rest : List Char) :
    scriptTargetFrom? before.reverse rest =
      ((List.range' before.length (rest.length + 1)).filter fun e =>
        endsMark ((before ++ rest).take e).reverse).findSome? fun e =>
          quotedTarget? ((before ++ rest).drop e) := by
  induction rest generalizing before with
  | nil =>
    rw [scriptTargetFrom?, List.length_nil, List.range'_one, List.filter_cons, List.take_left]
    by_cases hmark : endsMark before.reverse = true
    · rw [if_pos hmark, if_pos hmark, List.findSome?_cons, List.drop_left]
      cases quotedTarget? [] <;> rfl
    · rw [if_neg hmark, if_neg hmark]
      rfl
  | cons c rest ih =>
    have hnext := ih (before ++ [c])
    rw [List.reverse_append, List.reverse_singleton, List.singleton_append, List.append_assoc,
      List.singleton_append, List.length_append, List.length_singleton] at hnext
    rw [scriptTargetFrom?, hnext, List.length_cons, List.range'_succ (n := rest.length + 1),
      List.filter_cons, List.take_left]
    by_cases hmark : endsMark before.reverse = true
    · rw [if_pos hmark, if_pos hmark, List.findSome?_cons, List.drop_left]
      cases quotedTarget? (c :: rest) <;> rfl
    · rw [if_neg hmark, if_neg hmark]

theorem scriptTarget?_eq (body : List Char) :
    scriptTarget? body = targetAmong? body (markEnds body) := by
  have hsearch := scriptTargetFrom?_eq [] body
  rwa [List.nil_append, List.length_nil, ← List.range_eq_range'] at hsearch

/-! ## The first place with a target -/

/-- In a sorted list of places, the first one with a result is the least one. -/
theorem findSome?_iff_least {α : Type} {f : Nat → Option α} {R : Nat → α → Prop} {x : α}
    (hsorted : places.Pairwise (· ≤ ·)) (hR : ∀ e y, R e y ↔ e ∈ places ∧ f e = some y) :
    places.findSome? f = some x ↔ ∃ e, R e x ∧ IsLeast {e | ∃ y, R e y} e := by
  have hfirst {y : α} (h : places.findSome? f = some y) :
      ∃ e, R e y ∧ IsLeast {e | ∃ z, R e z} e := by
    obtain ⟨front, e, behind, hplaces, he, hfront⟩ := List.findSome?_eq_some_iff.mp h
    have hfound : R e y := (hR e y).mpr ⟨by simp [hplaces], he⟩
    refine ⟨e, hfound, ⟨y, hfound⟩, ?_⟩
    rintro e' ⟨z, hz⟩
    obtain ⟨hmem, hz⟩ := (hR e' z).mp hz
    rw [hplaces] at hmem hsorted
    rcases List.mem_append.mp hmem with hmem | hmem
    · rw [hfront e' hmem] at hz
      cases hz
    · rcases List.mem_cons.mp hmem with rfl | hmem
      · exact Nat.le_refl _
      · exact List.rel_of_pairwise_cons (List.pairwise_append.mp hsorted).2.1 hmem
  refine ⟨hfirst, ?_⟩
  rintro ⟨e, he, hleast⟩
  obtain ⟨hmem, hfe⟩ := (hR e x).mp he
  obtain ⟨y, hy⟩ : ∃ y, places.findSome? f = some y :=
    Option.isSome_iff_exists.mp (List.findSome?_isSome_iff.mpr ⟨e, hmem, by rw [hfe]; rfl⟩)
  obtain ⟨e', he', hleast'⟩ := hfirst hy
  -- There is only one least place, and it has only one result.
  rw [hleast'.unique hleast, hR, hfe] at he'
  rw [hy, ← he'.2]

theorem targetAt_iff (h : Reports body finds) (e : Nat) (target : List Char) :
    TargetAt body e target ↔ e ∈ finds ∧ quotedTarget? (body.drop e) = some target := by
  rw [h.mem_iff, quotedTarget?_iff]
  constructor
  · rintro ⟨before, a, rfl, rfl, hmark, rfl⟩
    exact ⟨⟨before, a.text, rfl, rfl, hmark⟩, a, List.drop_left.symm, rfl⟩
  · rintro ⟨⟨before, rest, rfl, rfl, hmark⟩, a, ha, rfl⟩
    rw [List.drop_left] at ha
    exact ⟨before, a, by rw [ha], rfl, hmark, rfl⟩

theorem targetAmong?_iff (h : Reports body finds) :
    targetAmong? body finds = some target ↔
      ∃ e, TargetAt body e target ∧ IsLeast {e | ∃ t, TargetAt body e t} e :=
  findSome?_iff_least h.sorted (targetAt_iff h)

theorem targetAmong?_eq_none_iff (h : Reports body finds) :
    targetAmong? body finds = none ↔ ∀ e t, ¬TargetAt body e t := by
  rw [targetAmong?, List.findSome?_eq_none_iff]
  simp only [targetAt_iff h, not_and, Option.eq_none_iff_forall_ne_some]
  exact ⟨fun hnone e t hmem => hnone e hmem t, fun hnone e hmem t => hnone e t hmem⟩

/-- The same places are told by every search, so each finds the same target. -/
theorem targetAmong?_eq (h : Reports body finds) :
    targetAmong? body finds = scriptTarget? body := by
  rw [scriptTarget?_eq]
  exact Option.ext fun target => by
    rw [targetAmong?_iff h, targetAmong?_iff (reports_markEnds body)]

/-- What a search from mark to mark finds is the target at the least place where a mark ends and a
target is assigned, and it finds none only if there is no such place. -/
theorem leftmost_assignment_found (body : List Char) (finds : List Nat) (h : Reports body finds) :
    targetAmong? body finds = scriptTarget? body ∧
      (∀ target, scriptTarget? body = some target ↔
        ∃ e, TargetAt body e target ∧ IsLeast {e | ∃ t, TargetAt body e t} e) ∧
      (scriptTarget? body = none ↔ ∀ e t, ¬TargetAt body e t) := by
  rw [← targetAmong?_eq h]
  exact ⟨rfl, fun _ => targetAmong?_iff h, targetAmong?_eq_none_iff h⟩

/-- Behind the first mark stands a dot, so the second one decides. -/
theorem leftmost_assignment_found_behind_window :
    let body := "<script>window.location.href = \"next.html\";</script>".toList
    Reports body [23, 28] ∧ targetAmong? body [23, 28] = some "next.html".toList ∧
      ∃ e, TargetAt body e "next.html".toList ∧ IsLeast {e | ∃ t, TargetAt body e t} e := by
  intro body
  have hends : markEnds body = [23, 28] := by decide +kernel
  have hreports : Reports body [23, 28] := hends ▸ reports_markEnds body
  have htarget : targetAmong? body [23, 28] = some "next.html".toList := by decide +kernel
  obtain ⟨hsame, hleast, -⟩ := leftmost_assignment_found body [23, 28] hreports
  exact ⟨hreports, htarget, (hleast _).mp (hsame ▸ htarget)⟩

end Transit.Triage
