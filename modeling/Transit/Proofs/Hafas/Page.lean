import Transit.Proofs.Hafas.Journey
import Transit.Proofs.Hafas.Trips
import Transit.Proofs.Hafas.Verdict
import Transit.Proofs.Sameness

/-! # Pages of journeys

A page has the trips of its journeys, each trip once. What a journey comes to does not depend on the
others, so a journey that comes to no trip, or to one that is there already, may stand anywhere in a
page.
-/
namespace Transit.Hafas

open Client (tripsOf)

variable {body body' j : Json} {before after : List Json}

def JourneysAnswer.fieldNames : List String :=
  ["journeys", "earlierRef", "laterRef", "realtimeDataUpdatedAt"]

/-- The trips of a page, if its body can be read. -/
def tripsIn? (body : Json) : Option (List Trip) :=
  (JourneysAnswer.ofJson? body).map fun found => (found.journeys.filterMap tripOf?).eraseDups

theorem tripsIn?_eq (body : Json) :
    tripsIn? body = (JourneysAnswer.ofJson? body).map fun found => tripsOf found.journeys := by
  simp only [tripsIn?, tripsOf, distinct_eq_eraseDups]

/-- The same page with one more journey. -/
inductive Inserts (before : List Json) (j : Json) (after : List Json) : Json.Agreement
  | journeys : Inserts before j after "journeys" (some (.arr (before ++ after)))
    (some (.arr (before ++ j :: after)))
  | same {name : String} (v : Option Json) (other : name ≠ "journeys") :
    Inserts before j after name v v

/-- A journey that cannot be read, or comes to a trip that equals one from a journey before it. -/
inductive AddsNothing (before : List Json) (j : Json) : Prop
  | unreadable {v : Json} (settled : j.settle = some v) (unread : tripOf? v = none)
  | repeated {v earlier w : Json} {t t' : Trip} (settled : j.settle = some v)
    (trip : tripOf? v = some t) (mem : earlier ∈ before) (settled' : earlier.settle = some w)
    (trip' : tripOf? w = some t') (same : (t == t') = true)

theorem Inserts.eq_of_ne {name : String} {v v' : Option Json}
    (h : Inserts before j after name v v') (hname : name ≠ "journeys") : v = v' := by
  cases h with
  | journeys => exact absurd rfl hname
  | same => rfl

theorem readAll_settle_cons (j : Json) (after : List Json) :
    Json.readAll Json.settle (j :: after) =
      j.settle.bind fun v => (Json.readAll Json.settle after).map (v :: ·) := by
  rw [Json.readAll]
  cases j.settle with
  | none => rfl
  | some v => cases Json.readAll Json.settle after <;> rfl

/-- Where a journey adds nothing, the settled ones come to the same trips with it and without. -/
theorem AddsNothing.settled_rel (h : AddsNothing before j) (after : List Json) :
    Option.Rel (fun vs vs' => tripsOf vs = tripsOf vs')
      (Json.readAll Json.settle (before ++ after))
      (Json.readAll Json.settle (before ++ j :: after)) := by
  rw [Json.readAll_append, Json.readAll_append, readAll_settle_cons]
  cases hbefore : Json.readAll Json.settle before with
  | none => exact .none
  | some vs =>
    cases Json.readAll Json.settle after with
    | none => cases j.settle <;> exact .none
    | some ws =>
      cases h with
      | unreadable settled unread =>
        rw [settled]
        refine .some ?_
        rw [tripsOf, tripsOf, List.filterMap_append, List.filterMap_append,
          List.filterMap_cons_none unread]
      | @repeated v earlier w t t' settled trip mem settled' trip' same =>
        obtain ⟨w', hw, hread⟩ := Json.read_of_readAll hbefore earlier mem
        obtain rfl := Option.some.inj (settled'.symm.trans hread)
        have hknown : (vs.filterMap tripOf?).contains t = true :=
          List.contains_iff_exists_mem_beq.mpr ⟨t', List.mem_filterMap.mpr ⟨w, hw, trip'⟩, same⟩
        rw [settled]
        refine .some ?_
        rw [tripsOf, tripsOf, List.filterMap_append, List.filterMap_append,
          List.filterMap_cons_some trip, distinct_insert hknown]

theorem answer_rel (h : Json.Alike JourneysAnswer.fieldNames (Inserts before j after) body body')
    (hnothing : AddsNothing before j) :
    Option.Rel (fun found found' => tripsOf found.journeys = tripsOf found'.journeys)
      (JourneysAnswer.ofJson? body) (JourneysAnswer.ofJson? body') := by
  rw [JourneysAnswer.ofJson?, JourneysAnswer.ofJson?]
  refine Json.rel_bind h.records fun r r' ⟨_, _, hagree⟩ => ?_
  have hjourneys : Option.Rel (fun vs vs' => tripsOf vs = tripsOf vs')
      (r.defaulted "journeys" [] (Json.list? Json.settle))
      (r'.defaulted "journeys" [] (Json.list? Json.settle)) := by
    have hlist := hagree.fields "journeys" (by decide)
    rw [Json.Record.defaulted, Json.Record.defaulted]
    generalize r.get? "journeys" = v at hlist ⊢
    generalize r'.get? "journeys" = v' at hlist ⊢
    cases hlist with
    | same _ other => exact absurd rfl other
    | journeys => exact hnothing.settled_rel after
  have hsame : ∀ name ∈ JourneysAnswer.fieldNames, name ≠ "journeys" →
      r.get? name = r'.get? name := fun name hname => (hagree.fields name hname).eq_of_ne
  refine Json.rel_bind hjourneys fun vs vs' htrips => ?_
  iterate 3
    refine Json.rel_bind_of_eq
      (Json.Record.optional_congr hagree.form (hsame _ (by decide) (by decide)) _) fun _ => ?_
  exact .some htrips

/-- A journey that adds nothing may stand anywhere in a page. -/
theorem tripsIn?_insert
    (h : Json.Alike JourneysAnswer.fieldNames (Inserts before j after) body body')
    (hnothing : AddsNothing before j) : tripsIn? body' = tripsIn? body := by
  rw [tripsIn?_eq, tripsIn?_eq]
  exact (Json.map_eq_of_rel (answer_rel h hnothing) fun _ _ => id).symm

variable {text : String} {http : Nat} {retryAfter : Option String} {address : Url}

/-- A good answer with a body that can be read delivers, whatever pages are told by. -/
theorem Client.delivers_of_ofText? (c : Client) {found : JourneysAnswer}
    (hgood : isSuccess http = true) (htext : Json.ofText? text = some body)
    (hfound : JourneysAnswer.ofJson? body = some found) :
    Delivers c (.response http retryAfter address (some text)) found := by
  have hread : (Json.ofText? text).bind JourneysAnswer.ofJson? = some found := by
    rw [htext, Option.bind_some, hfound]
  obtain ⟨r, hr, -⟩ := Option.bind_eq_some_iff.mp hfound
  have usual : pageClass c.triage address text = .normal :=
    if_pos (looksLikeData_of_ofText? htext hr)
  exact .data hgood (untriaged_iff.mpr usual) hread

namespace Client

variable {σ : Type} {c : Client} {backend : Backend σ} {url : Url} {s : σ} {trips : List Trip}

/-- The page that is made of a good answer has the trips of the body. -/
theorem journeys_of_tripsIn? {params : Params} (hurl : c.endpoint ["journeys"] = .ok url)
    (hanswer : (backend (url.withParams params) s).1 =
      .response http retryAfter address (some text)) (hgood : isSuccess http = true)
    (htext : Json.ofText? text = some body) (htrips : tripsIn? body = some trips) :
    ∃ page, (c.journeys backend params s).1 = .ok page ∧ page.trips = trips := by
  rw [tripsIn?_eq] at htrips
  obtain ⟨found, hfound, rfl⟩ := Option.map_eq_some_iff.mp htrips
  obtain ⟨from', hpage⟩ := pageIn_of_delivers (c.delivers_of_ofText? hgood htext hfound)
  rw [journeys_sent hurl, hanswer]
  exact ⟨c.pageOf from' found, hpage, rfl⟩

/-- Journeys are converted independently of one another. A page has the trips of its journeys, each
where it occurs first. A journey that comes to no trip, or to one that equals the trip of a journey
before it, changes nothing wherever it stands. The legs of a trip are those of its journey, in their
order, and a journey with a leg that cannot be read comes to no trip, so that it changes nothing. -/
theorem journeys_independent (c : Client) (backend : Backend σ) :
    (∀ params s url http retryAfter address text body trips, c.endpoint ["journeys"] = .ok url →
      (backend (url.withParams params) s).1 = .response http retryAfter address (some text) →
      isSuccess http = true → Json.ofText? text = some body → tripsIn? body = some trips →
        ∃ page, (c.journeys backend params s).1 = .ok page ∧ page.trips = trips) ∧
    (∀ body body' before j after, AddsNothing before j →
      Json.Alike JourneysAnswer.fieldNames (Inserts before j after) body body' →
        tripsIn? body' = tripsIn? body) ∧
    (∀ v t, tripOf? v = some t → ∃ items, legsIn v = some items ∧
      List.Forall₂ (fun item l => legOf? item = some l) items t.legs) ∧
    ∀ before j v items item, j.settle = some v → legsIn v = some items → item ∈ items →
      legOf? item = none → tripOf? v = none ∧ AddsNothing before j := by
  refine ⟨?_, fun body body' before j after hnothing halike => tripsIn?_insert halike hnothing,
    ?_, ?_⟩
  · intro params s url http retryAfter address text body trips hurl hanswer hgood htext htrips
    exact journeys_of_tripsIn? hurl hanswer hgood htext htrips
  · intro v t htrip
    obtain ⟨items, hitems, hlegs⟩ := legs_of_tripOf? htrip
    exact ⟨items, hitems, Json.forall₂_of_readAll hlegs⟩
  · intro before j v items item hsettled hitems hitem hleg
    have hnone := tripOf?_eq_none hitems hitem hleg
    exact ⟨hnone, .unreadable hsettled hnone⟩

/-- A walk of one leg. -/
def walkJourney : Json := .obj [("legs", .arr [.obj [
  ("arrival", .str "1970-01-01T01:00:00Z"), ("departure", .str "1970-01-01T00:00:00Z"),
  ("destination", .obj [("id", .str "2")]), ("origin", .obj [("id", .str "1")])]])]

/-- A leg without ends. -/
def lostJourney : Json := .obj [("legs", .arr [.obj []])]

def pageWith (journeys : List Json) : Json := .obj [("journeys", .arr journeys)]

theorem alike_pageWith (before : List Json) (j : Json) (after : List Json) :
    Json.Alike JourneysAnswer.fieldNames (Inserts before j after) (pageWith (before ++ after))
      (pageWith (before ++ j :: after)) :=
  .ofFields (fun _ hn => .same none (by simpa using hn)) (.cons ⟨rfl, .journeys⟩ .nil)

def company : Json := pageWith [walkJourney, lostJourney, walkJourney]

def companyBackend : Backend Unit :=
  answering fun url => .response 200 none url (some company.compact)

/-- The walk is in the page once, in whatever company. -/
theorem walk_in_company : ∃ t page, tripOf? walkJourney = some t ∧
    (walkClient.journeys companyBackend [] ()).1 = .ok page ∧ page.trips = [t] := by
  obtain ⟨hpage, hinsert, -, hlost⟩ := journeys_independent walkClient companyBackend
  obtain ⟨t, htrip⟩ := Option.isSome_iff_exists.mp
    (by decide +kernel : (tripOf? walkJourney).isSome = true)
  obtain ⟨url, hurl⟩ : ∃ url, walkClient.endpoint ["journeys"] = .ok url := ⟨_, rfl⟩
  have hsettled : walkJourney.settle = some walkJourney := by rfl
  have hlone : tripsIn? (pageWith [walkJourney]) = some [t] := by
    change some (([walkJourney].filterMap tripOf?).eraseDups) = some [t]
    rw [List.filterMap_cons_some htrip]
    rfl
  have htwice := hinsert _ _ [walkJourney] walkJourney []
    (.repeated hsettled htrip (List.mem_singleton_self _) hsettled htrip BEq.rfl)
    (alike_pageWith [walkJourney] walkJourney [])
  have hcompany := hinsert _ company [walkJourney] lostJourney [walkJourney]
    (hlost _ lostJourney lostJourney [.obj []] (.obj []) rfl rfl (List.mem_singleton_self _) rfl).2
    (alike_pageWith [walkJourney] lostJourney [walkJourney])
  have htrips : tripsIn? company = some [t] := (hcompany.trans htwice).trans hlone
  have hplain : company.isPlain 0 = true := by decide +kernel
  obtain ⟨page, hgiven, hlist⟩ := hpage [] () url 200 none _ company.compact company [t] hurl rfl
    rfl (Json.ofText_compact hplain) htrips
  exact ⟨t, page, htrip, hgiven, hlist⟩

end Client

end Transit.Hafas
