import Transit.Proofs.Hafas.Journeys
import Transit.Proofs.Hafas.Lookup
import Transit.Proofs.Hafas.Payload
import Transit.Proofs.Permission

/-! # The course of a search

A search visits its places in their order, and ends with one request for journeys if all of them
were found. What it ends with otherwise is told by the first place that is unknown, else by those
that are ambiguous.
-/
namespace Transit.Hafas.Client

variable {σ : Type} {c : Client} {backend : Backend σ} {q : TripsQuery} {l : Location}
  {origin destination : Resolution} {via : Option Resolution} {exchanges : List Exchange}

/-- What a first search makes of the answer to its request. -/
def presented (c : Client) (params : Params) (origin : Location) (via : Option Location)
    (destination : Location) : Except Error JourneyPage → TripsResult
  | .error e => c.failed e
  | .ok page => Provider.stamp (opening params origin via destination page)

theorem presented_status (c : Client) (params : Params) (origin : Location) (via : Option Location)
    (destination : Location) (page : Except Error JourneyPage) :
    (c.presented params origin via destination page).status ∈ .ok :: failures := by
  cases page with
  | error e => exact .tail _ (failureStatus_mem e)
  | ok page =>
    rw [presented, opening]
    split
    · exact .tail _ (.head _)
    · exact .head _

/-- A first page with trips leads to the context of its token. -/
theorem context_presented {page : JourneyPage} (h : page.trips ≠ []) (c : Client) (params : Params)
    (origin : Location) (via : Option Location) (destination : Location) :
    ∃ window, (c.presented params origin via destination (.ok page)).context =
      some { (JourneyToken.mk params page.earlierRef page.laterRef).toContext with window } := by
  rw [presented, Provider.stamp, TripsResult.context_withWindow, (opening_of_trips h ..).2]
  exact ⟨_, rfl⟩

/-- With its places found and its parameters checked, a search presents what it is answered. -/
theorem queryTrips_resolved {o d : Location} {v : Option Location} {params : Params} {url : Url}
    {answer : Answer} {s s' t : σ} (h : (c.provider backend).Permits q)
    (places : c.resolveEndpoints backend q s = (.ok (.resolved o v d), t))
    (checked : journeyParams c.config q o v d = .ok params)
    (place : c.endpoint ["journeys"] = .ok url)
    (answered : backend (url.withParams (params ++ [timeParam q])) t = (answer, s')) :
    (c.provider backend).queryTrips q s =
      (.ok (c.presented params o v d (c.pageIn answer)), s') := by
  have hrequest : (c.provider backend).requestTrips q s = _ := requestTrips_resolved places checked
  rw [Provider.queryTrips_permitted (Provider.permit_eq_ok.mpr h), hrequest, journeys_sent place,
    answered]
  cases c.pageIn answer <;> rfl

/-- What a result offers for a place: its candidates if there is a choice, else nothing. -/
inductive Choice : Option Resolution → List Location → Prop
  | unasked : Choice none []
  | unique (l : Location) : Choice (some (.unique l)) []
  | ambiguous (ls : List Location) : Choice (some (.ambiguous ls)) ls

theorem choice_candidates {found : Resolution} (h : found ≠ .unknown) :
    Choice (some found) found.candidates := by
  cases found with
  | unique l => exact .unique l
  | ambiguous ls => exact .ambiguous ls
  | unknown => exact absurd rfl h

theorem choice_via (h : via ≠ some .unknown) :
    Choice via ((via.map Resolution.candidates).getD []) := by
  cases via with
  | none => exact .unasked
  | some found => exact choice_candidates fun hfound => h (congrArg some hfound)

/-- How a search ends once its places have been visited: nothing more is sent, unless all of them
are found and the parameters are checked. -/
inductive Concludes (c : Client) (q : TripsQuery) :
    Option (List Resolution) → List Exchange → Outcome TripsResult → Prop
  | down : Concludes c q none [] (.ok { header := c.header none, status := .serviceDown })
  | unknownFrom {rest : List Resolution} :
    Concludes c q (some (.unknown :: rest)) []
      (.ok { header := c.header none, status := .unknownFrom })
  | unknownVia {origin destination : Resolution} (from_known : origin ≠ .unknown) :
    Concludes c q (some [origin, .unknown, destination]) []
      (.ok { header := c.header none, status := .unknownVia })
  | unknownTo {origin : Resolution} {via : Option Resolution} (from_known : origin ≠ .unknown)
    (via_known : via ≠ some .unknown) :
    Concludes c q (some (origin :: (via.toList ++ [.unknown]))) []
      (.ok { header := c.header none, status := .unknownTo })
  | ambiguous {origin destination : Resolution} {via : Option Resolution}
    {ambiguousFrom ambiguousVia ambiguousTo : List Location}
    (open_choice : ∃ candidates, .ambiguous candidates ∈ origin :: (via.toList ++ [destination]))
    (origins : Choice (some origin) ambiguousFrom) (vias : Choice via ambiguousVia)
    (destinations : Choice (some destination) ambiguousTo) :
    Concludes c q (some (origin :: (via.toList ++ [destination]))) []
      (.ok { header := c.header none, status := .ambiguous, ambiguousFrom, ambiguousVia,
             ambiguousTo })
  | rejected {origin destination : Location} {via : Option Location} {e : ProviderError}
    (checked : journeyParams c.config q origin via destination = .error e) :
    Concludes c q (some (.unique origin :: ((via.map .unique).toList ++ [.unique destination]))) []
      (.error e)
  | misplaced {origin destination : Location} {via : Option Location} {params : Params} {e : Error}
    (checked : journeyParams c.config q origin via destination = .ok params)
    (place : c.endpoint ["journeys"] = .error e) :
    Concludes c q (some (.unique origin :: ((via.map .unique).toList ++ [.unique destination]))) []
      (.ok (c.failed e))
  | searched {origin destination : Location} {via : Option Location} {params : Params} {url : Url}
    (checked : journeyParams c.config q origin via destination = .ok params)
    (asked : c.Asks "journeys" (params ++ [(timeKey q, q.time.offsetText)]) url) (answer : Answer) :
    Concludes c q (some (.unique origin :: ((via.map .unique).toList ++ [.unique destination])))
      [(url, answer)] (.ok (c.presented params origin via destination (c.pageIn answer)))

/-- The requests of a search, and what it comes to. -/
def Searches (c : Client) (q : TripsQuery) (exchanges : List Exchange)
    (outcome : Outcome TripsResult) : Prop :=
  ∃ lookups found search, exchanges = lookups ++ search ∧ Visits c q.places lookups found ∧
    Concludes c q found search outcome

theorem journeys_traces (c : Client) (backend : Backend σ) (params : Params) :
    Traces (Requests c ["journeys"] params c.pageIn) (c.journeys backend params)
      (c.journeys backend.recording params) :=
  fetchAs_map_traces c backend _ (fun found => c.pageOf found.1 found.2) _ _

theorem searchJourneys_traces (c : Client) (backend : Backend σ) (q : TripsQuery)
    (origin : Location) (via : Option Location) (destination : Location) :
    Traces (fun exchanges outcome => Concludes c q
        (some (.unique origin :: ((via.map .unique).toList ++ [.unique destination]))) exchanges
        (outcome.map Provider.stamp))
      (c.searchJourneys backend q origin via destination)
      (c.searchJourneys backend.recording q origin via destination) := by
  rw [searchJourneys, searchJourneys]
  cases hparams : journeyParams c.config q origin via destination with
  | error e => exact Traces.of_return (.rejected hparams)
  | ok params =>
    refine Traces.bind (journeys_traces c backend (params ++ [timeParam q])) ?_
    intro exchanges outcome h
    cases h with
    | misplaced place =>
      exact Traces.of_return (.misplaced hparams place)
    | sent place answer =>
      have hsearched := Concludes.searched hparams (asks_search place params q) answer
      cases hpage : c.pageIn answer with
      | error e =>
        rw [hpage] at hsearched
        exact Traces.of_return hsearched
      | ok page =>
        rw [hpage] at hsearched
        exact Traces.of_return hsearched

/-- What the places of a search come to together. -/
theorem concludes_combine (c : Client) (q : TripsQuery) (origin : Resolution)
    (via : Option Resolution) (destination : Resolution) :
    match combine origin via destination with
    | .unknown status => Concludes c q (some (origin :: (via.toList ++ [destination]))) []
      (.ok (.bare (c.header none) status))
    | .ambiguous os vs ds => Concludes c q (some (origin :: (via.toList ++ [destination]))) []
      (.ok (.ambiguous (c.header none) os vs ds))
    | .resolved o v d => origin = .unique o ∧ via = v.map .unique ∧ destination = .unique d := by
  fun_cases combine origin via destination with
  | case1 => exact .unknownFrom
  | case2 origin destination horigin => exact .unknownVia horigin
  | case3 origin via horigin hvia => exact .unknownTo horigin hvia
  | case4 => exact ⟨rfl, rfl, rfl⟩
  | case5 => exact ⟨rfl, rfl, rfl⟩
  | case6 origin via destination horigin hvia hdestination hdirect hacross =>
    refine .ambiguous ?_ (choice_candidates horigin) (choice_via hvia)
      (choice_candidates hdestination)
    rcases origin with o | os | _
    · rcases destination with d | ds | _
      · rcases via with _ | (v | vs | _)
        · exact (hdirect o d rfl rfl rfl).elim
        · exact (hacross o v d rfl rfl rfl).elim
        · exact ⟨vs, by simp⟩
        · exact (hvia rfl).elim
      · exact ⟨ds, by simp⟩
      · exact (hdestination rfl).elim
    · exact ⟨os, by simp⟩
    · exact (horigin rfl).elim

/-- The course of a search that is let through. -/
theorem requestTrips_traces (c : Client) (backend : Backend σ) (q : TripsQuery) :
    Traces (fun exchanges outcome => Searches c q exchanges (outcome.map Provider.stamp))
      (c.requestTrips backend q) (c.requestTrips backend.recording q) := by
  refine Traces.bind (resolveEndpoints_traces c backend q) ?_
  intro lookups outcome h
  cases outcome with
  | error e => exact Traces.of_return ⟨lookups, none, [], rfl, h, .down⟩
  | ok endpoints =>
    obtain ⟨origin, via, destination, rfl, hvisits⟩ := h
    have hends := concludes_combine c q origin via destination
    cases hcombine : combine origin via destination with
    | unknown status =>
      rw [hcombine] at hends
      exact Traces.of_return ⟨lookups, _, [], rfl, hvisits, hends⟩
    | ambiguous os vs ds =>
      rw [hcombine] at hends
      exact Traces.of_return ⟨lookups, _, [], rfl, hvisits, hends⟩
    | resolved o v d =>
      rw [hcombine] at hends
      obtain ⟨rfl, rfl, rfl⟩ := hends
      refine (searchJourneys_traces c backend q o v d).mono fun search outcome hsearch => ?_
      exact ⟨lookups, _, search, rfl, hvisits, hsearch⟩

theorem queryTrips_traces (h : (c.provider backend).Permits q) :
    Traces (Searches c q) ((c.provider backend).queryTrips q)
      ((c.provider backend.recording).queryTrips q) := by
  intro s log
  obtain ⟨exchanges, hrun, hsearches⟩ := requestTrips_traces c backend q s log
  have hpermit := Provider.permit_eq_ok.mpr h
  have hpermit' : (c.provider backend.recording).permit q = .ok () := hpermit
  have hrun' : (c.provider backend.recording).requestTrips q (s, log) = _ := hrun
  rw [Provider.queryTrips_permitted hpermit, Provider.queryTrips_permitted hpermit', hrun']
  exact ⟨exchanges, rfl, hsearches⟩

/-- A place that is reported is a place by itself: the one that was asked for, unless this was only
named. -/
def Keeps (asked reported : Location) : Prop :=
  reported.kind ≠ .any ∧ (asked.kind ≠ .any → reported = asked)

/-- What a result reports of the places of a search. -/
structure Reports (q : TripsQuery) (r : TripsResult) : Prop where
  origin : Option.Rel Keeps (some q.origin) r.origin
  via : Option.Rel Keeps q.via r.via
  destination : Option.Rel Keeps (some q.destination) r.destination

theorem Visits.each {ls : List Location} {found : List Resolution}
    (h : Visits c ls exchanges (some found)) :
    List.Forall₂ (fun l resolution => ∃ visited, Visit c l visited (some resolution)) ls found := by
  generalize hfound : some found = outcome at h
  induction h generalizing found with
  | done =>
    cases hfound
    exact .nil
  | stopped visit => cases hfound
  | @next l ls earlier later resolution rest visit hrest ih =>
    cases rest with
    | none => cases hfound
    | some rest =>
      cases hfound
      exact .cons ⟨earlier, visit⟩ (ih rfl)

theorem Visit.keeps {found : Location} (h : Visit c l exchanges (some (.unique found))) :
    Keeps l found := by
  cases h with
  | given known => exact ⟨known, fun _ => rfl⟩
  | answered wanted asked read settled =>
    have hnamed := (lookupName?_eq_some.mp wanted).1
    exact ⟨kind_of_locationsIn read settled.mem, fun hknown => absurd hnamed hknown⟩

/-- The places that were found are places to report. -/
theorem Visits.keeps {o d : Location} {v : Option Location}
    (h : Visits c q.places exchanges
      (some (.unique o :: ((v.map .unique).toList ++ [.unique d])))) :
    Keeps q.origin o ∧ Option.Rel Keeps q.via v ∧ Keeps q.destination d := by
  obtain ⟨⟨_, horigin⟩, hrest⟩ := List.forall₂_cons.mp h.each
  cases hvia : q.via with
  | none =>
    cases v with
    | none =>
      rw [hvia] at hrest
      obtain ⟨⟨_, hdestination⟩, -⟩ := List.forall₂_cons.mp hrest
      exact ⟨horigin.keeps, .none, hdestination.keeps⟩
    | some v =>
      rw [hvia] at hrest
      cases (List.forall₂_cons.mp hrest).2
  | some l =>
    cases v with
    | none =>
      rw [hvia] at hrest
      cases (List.forall₂_cons.mp hrest).2
    | some v =>
      rw [hvia] at hrest
      obtain ⟨⟨_, hvisit⟩, hrest⟩ := List.forall₂_cons.mp hrest
      obtain ⟨⟨_, hdestination⟩, -⟩ := List.forall₂_cons.mp hrest
      exact ⟨horigin.keeps, .some hvisit.keeps, hdestination.keeps⟩

/-- A good search reports its places. -/
theorem Searches.reports {r : TripsResult} (h : Searches c q exchanges (.ok r))
    (hok : r.status = .ok) : Reports q r := by
  obtain ⟨lookups, found, search, -, hvisits, hends⟩ := h
  cases hends with
  | down | unknownFrom | unknownVia | unknownTo | ambiguous => cases hok
  | misplaced checked place => exact absurd hok (failureStatus_ne_ok _)
  | searched checked asked answer =>
    obtain ⟨horigin, hvia, hdestination⟩ := hvisits.keeps
    cases hpage : c.pageIn answer with
    | error e =>
      rw [hpage] at hok
      exact absurd hok (failureStatus_ne_ok e)
    | ok page =>
      rw [hpage] at hok
      by_cases hempty : page.trips.isEmpty
      · rw [presented, opening, if_pos hempty] at hok
        cases hok
      · rw [presented, opening, if_neg hempty]
        exact ⟨.some horigin, hvia, .some hdestination⟩

/-- In every state of every backend, a search that is let through visits its places in their order,
with one request for each that is only named, up to the first one whose request fails. A request for
journeys comes last, and only if all the places are found; otherwise the search ends with what its
places come to. A good search reports places by themselves, and those that were given as they were
given. -/
theorem places_before_journeys (c : Client) (backend : Backend σ) (q : TripsQuery)
    (h : (c.provider backend).Permits q) (s : σ) (log : List Exchange) :
    ∃ outcome s' lookups found search,
      (c.provider backend).queryTrips q s = (outcome, s') ∧
      (c.provider backend.recording).queryTrips q (s, log) =
        (outcome, s', log ++ (lookups ++ search)) ∧
      (∃ asked, List.Forall₂ (Asking c) asked lookups ∧ asked <+: namesOf q.places ∧
        (found.isSome → asked = namesOf q.places)) ∧
      Visits c q.places lookups found ∧ Concludes c q found search outcome ∧
      ∀ r, outcome = .ok r → r.status = .ok → Reports q r := by
  obtain ⟨exchanges, hrun, hsearches⟩ := queryTrips_traces h s log
  have hreports : ∀ r, ((c.provider backend).queryTrips q s).1 = .ok r → r.status = .ok →
      Reports q r := by
    intro r hr hok
    rw [hr] at hsearches
    exact hsearches.reports hok
  obtain ⟨lookups, found, search, rfl, hvisits, hends⟩ := hsearches
  exact ⟨_, _, lookups, found, search, rfl, hrun, hvisits.asked_in_order, hvisits, hends, hreports⟩

/-- No journeys are asked for in an ambiguous search. -/
theorem Concludes.unsearched {found : Option (List Resolution)} {r : TripsResult}
    (h : Concludes c q found exchanges (.ok r)) (hr : r.status = .ambiguous) :
    exchanges = [] ∧ found.isSome := by
  have hsure : r.status ∉ .ok :: failures := by
    rw [hr]
    decide
  cases h with
  | unknownFrom | unknownVia | unknownTo | ambiguous => exact ⟨rfl, rfl⟩
  | down => cases hr
  | misplaced checked place => exact absurd (.tail _ (failureStatus_mem _)) hsure
  | searched checked asked answer => exact absurd (presented_status ..) hsure

/-- Two stations of one name are a choice, after one request for this name. -/
theorem namesakes_before_journeys :
    ∃ r lookup resolutions,
      (walkClient.provider namesakesBackend.recording).queryTrips namedQuery ((), []) =
        (.ok r, (), [lookup]) ∧
      r.status = .ambiguous ∧
      walkClient.Asks "locations" (lookupParams walkClient.config "Station") lookup.1 ∧
      Visits walkClient namedQuery.places [lookup] (some resolutions) ∧
      Concludes walkClient namedQuery (some resolutions) [] (.ok r) := by
  have hstatus : ((walkClient.provider namesakesBackend).queryTrips namedQuery ()).1.toOption.map
      TripsResult.status = some .ambiguous := by decide +kernel
  have hnames : namesOf namedQuery.places = ["Station"] := by decide
  obtain ⟨r, hr, hambiguous⟩ := exists_result hstatus
  obtain ⟨outcome, s', lookups, found, search, hquery, hrun, ⟨asked, hasked, -, hall⟩, hvisits,
    hends, -⟩ :=
    places_before_journeys walkClient namesakesBackend namedQuery ⟨rfl, nofun, nofun⟩ () []
  rw [hr] at hquery
  obtain ⟨rfl, rfl⟩ := Prod.mk.inj hquery
  obtain ⟨rfl, hfound⟩ := hends.unsearched hambiguous
  obtain ⟨resolutions, rfl⟩ := Option.isSome_iff_exists.mp hfound
  obtain rfl : asked = ["Station"] := (hall rfl).trans hnames
  obtain ⟨lookup, _, hlookup, hnone, rfl⟩ := List.forall₂_cons_left_iff.mp hasked
  obtain rfl := List.forall₂_nil_left_iff.mp hnone
  exact ⟨r, lookup, resolutions, hrun, hambiguous, hlookup, hvisits, hends⟩

end Transit.Hafas.Client
