import Transit.Proofs.Hafas.Course

/-! # Backends in trouble

Trouble of the backend is told by the status of a search or of a board, and never by an error.
Suggestions have no such status: they are given only if the backend has answered.
-/
namespace Transit.Hafas

open Provider (Guards)

variable {σ α : Type}

theorem failureStatus_of_unknown {e : Error} (hstatus : e.tripsStatus? = none)
    (hfound : e.isNotFound = false) : Client.failureStatus e = .serviceDown := by
  rw [Client.failureStatus, hstatus, hfound]
  rfl

namespace Client

variable {c : Client} {backend : Backend σ} {q : TripsQuery} {context : TripsContext}
  {d : Direction} {read : Json → Option α} {answer : Answer} {exchanges log : List Exchange}
  {s s' : σ}

/-- No answer to what was asked: a failure on the way, a limit on the rate, a page, or good data
that cannot be read. -/
inductive Troubled (c : Client) (read : Json → Option α) : Answer → Prop
  | timedOut : Troubled c read .timedOut
  | unreachable {message : String} : Troubled c read (.unreachable message)
  | limited {retryAfter body : Option String} {address : Url} :
    Troubled c read (.response 429 retryAfter address body)
  | brokenOff {status : Nat} {retryAfter : Option String} {address : Url} :
    Troubled c read (.response status retryAfter address none)
  | page {status : Nat} {retryAfter : Option String} {address : Url} {body : String}
    (strange : pageClass c.triage address body ≠ .normal) :
    Troubled c read (.response status retryAfter address (some body))
  | unreadable {status : Nat} {retryAfter : Option String} {address : Url} {body : String}
    (good : isSuccess status = true) (unread : (Json.ofText? body).bind read = none) :
    Troubled c read (.response status retryAfter address (some body))

/-- Trouble is a failure that says nothing of what was asked for. -/
theorem Troubled.failure (h : Troubled c read answer) :
    ∃ e, c.reading read answer = .error e ∧ e.tripsStatus? = none ∧ e.isNotFound = false := by
  have htaken := reading_taken c read answer
  generalize c.reading read answer = outcome at htaken
  cases htaken with
  | timedOut | unreachable | limited | brokenOff | page | unreadable =>
    exact ⟨_, rfl, rfl, rfl⟩
  | refused unlimited usual bad =>
    cases h with
    | limited => exact absurd rfl unlimited
    | page strange => exact absurd usual strange
    | unreadable good unread =>
      rw [bad] at good
      cases good
  | good usual good fits =>
    cases h with
    | limited => cases good
    | page strange => exact absurd usual strange
    | unreadable good unread =>
      rw [unread] at fits
      cases fits

/-- A request for journeys, at their place. -/
def IsSearch (c : Client) (url : Url) : Prop :=
  ∃ place params, c.endpoint ["journeys"] = .ok place ∧ url = place.withParams params

/-- An exchange of a search in trouble, be it a look-up or the request for journeys. -/
def TroubledTrip (c : Client) (x : Exchange) : Prop :=
  (c.IsLookup x.1 → Troubled c (Json.list? RawLocation.ofJson?) x.2) ∧
    (c.IsSearch x.1 → Troubled c JourneysAnswer.ofJson? x.2)

theorem Troubled.unlocated (h : Troubled c (Json.list? RawLocation.ofJson?) answer)
    (types : LocationTypes) : ∃ e, c.locationsIn types answer = .error e := by
  obtain ⟨e, hread, -⟩ := h.failure
  exact ⟨e, by rw [locationsIn, hread]; rfl⟩

theorem Troubled.status_page (h : Troubled c JourneysAnswer.ofJson? answer) :
    ∃ e, c.pageIn answer = .error e ∧ failureStatus e = .serviceDown := by
  obtain ⟨e, hread, hstatus, hfound⟩ := h.failure
  exact ⟨e, by rw [pageIn, hread]; rfl, failureStatus_of_unknown hstatus hfound⟩

/-- Visits stop at trouble. -/
theorem Visits.stopped_by_trouble {ls : List Location} {found : Option (List Resolution)}
    (h : Visits c ls exchanges found) (hsent : exchanges ≠ [])
    (htrouble : ∀ x ∈ exchanges, Troubled c (Json.list? RawLocation.ofJson?) x.2) :
    found = none := by
  induction h with
  | done => exact absurd rfl hsent
  | stopped visit => rfl
  | next visit rest ih =>
    cases visit with
    | given | blank => rw [ih hsent htrouble]; rfl
    | answered wanted asked read settled =>
      obtain ⟨e, hread⟩ := (htrouble _ List.mem_cons_self).unlocated .all
      rw [read] at hread
      cases hread

/-- A search in trouble says that the service is down. -/
theorem Searches.status_of_trouble {outcome : Outcome TripsResult}
    (h : Searches c q exchanges outcome) (hsent : exchanges ≠ [])
    (htrouble : ∀ x ∈ exchanges, TroubledTrip c x) :
    ∃ r, outcome = .ok r ∧ r.status = .serviceDown := by
  obtain ⟨lookups, found, search, rfl, hvisits, hends⟩ := h
  by_cases hlookups : lookups = []
  · subst hlookups
    cases hends with
    | down | unknownFrom | unknownVia | unknownTo | ambiguous | rejected | misplaced =>
      exact absurd rfl hsent
    | searched checked asked answer =>
      obtain ⟨place, hplace, hurl⟩ := asked.sent
      have hanswer := (htrouble _ List.mem_cons_self).2 ⟨place, _, hplace, hurl⟩
      obtain ⟨e, hpage, hstatus⟩ := hanswer.status_page
      exact ⟨_, rfl, by rw [hpage]; exact hstatus⟩
  · have hlocations : ∀ x ∈ lookups, Troubled c (Json.list? RawLocation.ofJson?) x.2 := fun x hx =>
      (htrouble x (List.mem_append_left search hx)).1 (hvisits.isLookup x hx)
    obtain rfl := hvisits.stopped_by_trouble hlookups hlocations
    cases hends with
    | down => exact ⟨_, rfl, rfl⟩

theorem endpointParams_guards (role : String) (l : Location) :
    Guards (endpointParams role l) := by
  rw [endpointParams]
  split
  · exact Provider.guards_ok _
  · exact Provider.guards_ok _
  · exact Provider.guards_ok _
  · exact Provider.guards_error rfl

theorem viaParams_guards (via : Option Location) : Guards (viaParams via) := by
  rw [viaParams.eq_def]
  split
  · exact Provider.guards_ok _
  · split
    · exact Provider.guards_ok _
    · exact Provider.guards_error rfl

theorem journeyParams_guards (config : Config) (q : TripsQuery) (origin : Location)
    (via : Option Location) (destination : Location) :
    Guards (journeyParams config q origin via destination) :=
  (endpointParams_guards "from" origin).bind fun _ => (viaParams_guards via).bind fun _ =>
    (endpointParams_guards "to" destination).bind fun _ =>
      ((Provider.guards_error rfl).ite (Provider.guards_ok _)).bind fun _ => Provider.guards_ok _

theorem queryTrips_guards (c : Client) (backend : Backend σ) (q : TripsQuery) (s : σ) :
    Guards ((c.provider backend).queryTrips q s).1 := by
  by_cases hpermits : (c.provider backend).Permits q
  · obtain ⟨exchanges, -, hsearches⟩ := queryTrips_traces hpermits s []
    obtain ⟨lookups, found, search, -, -, hends⟩ := hsearches
    intro e he
    rw [he] at hends
    cases hends with
    | rejected checked => exact journeyParams_guards _ _ _ _ _ e checked
  · obtain ⟨e, he, hrefused⟩ := Provider.queryTrips_refused hpermits s
    rw [hrefused]
    exact Provider.guards_error he

theorem queryMoreTrips_guards (c : Client) (backend : Backend σ) (context : TripsContext)
    (d : Direction) (s : σ) : Guards ((c.provider backend).queryMoreTrips context d s).1 := by
  obtain ⟨exchanges, -, hcontinues⟩ := queryMoreTrips_traces c backend context d s []
  intro e he
  rw [he] at hcontinues
  cases hcontinues with
  | rejected violated => exact violated

/-- A continuation in trouble says that the service is down. -/
theorem Continues.status_of_trouble {outcome : Outcome TripsResult}
    (h : Continues c context d exchanges outcome) (hsent : exchanges ≠ [])
    (htrouble : ∀ x ∈ exchanges, TroubledTrip c x) :
    ∃ r, outcome = .ok r ∧ r.status = .serviceDown := by
  cases h with
  | rejected | misplaced => exact absurd rfl hsent
  | sent decoded referred place answer =>
    have hanswer := (htrouble _ List.mem_cons_self).2 ⟨_, _, place, rfl⟩
    obtain ⟨e, hpage, hstatus⟩ := hanswer.status_page
    refine ⟨_, rfl, ?_⟩
    rw [Provider.status_advance, hpage]
    exact hstatus

/-- A board in trouble says that the service is down. -/
theorem Boards.status_of_trouble {q : DeparturesQuery} {outcome : Outcome DeparturesResult}
    (h : Boards c q exchanges outcome) (hsent : exchanges ≠ [])
    (htrouble : ∀ x ∈ exchanges, Troubled c DeparturesAnswer.ofJson? x.2) :
    ∃ r, outcome = .ok r ∧ r.status = .serviceDown := by
  cases h with
  | rejected | misplaced => exact absurd rfl hsent
  | sent named place answer =>
    obtain ⟨e, hread, -, hfound⟩ := (htrouble _ List.mem_cons_self).failure
    have hboard : c.boardIn answer = .error e := by rw [boardIn, hread]; rfl
    refine ⟨_, rfl, ?_⟩
    rw [hboard, boardsResult, hfound]
    rfl

theorem Boards.fails_iff {q : DeparturesQuery} {outcome : Outcome DeparturesResult}
    (h : Boards c q exchanges outcome) :
    (∃ e, outcome = .error e) ↔ Text.isBlankText q.stationId := by
  cases h with
  | rejected blank => exact ⟨fun _ => blank, fun _ => ⟨_, rfl⟩⟩
  | misplaced named place => exact ⟨nofun, fun blank => absurd blank named⟩
  | sent named place answer => exact ⟨nofun, fun blank => absurd blank named⟩

/-- Good data that has been read from an exchange. -/
def Answered (c : Client) (read : Json → Option α) (x : Exchange) : Prop :=
  ∃ status retryAfter address body a, x.2 = .response status retryAfter address (some body) ∧
    isSuccess status = true ∧ pageClass c.triage address body = .normal ∧
    (Json.ofText? body).bind read = some a

theorem answered_of_reading {url : Url} {found : Url × α} (h : c.reading read answer = .ok found) :
    Answered c read (url, answer) := by
  have htaken := reading_taken c read answer
  rw [h] at htaken
  cases htaken with
  | good usual good fits => exact ⟨_, _, _, _, _, rfl, good, usual, fits⟩

/-- Suggestions for some words come from one good answer. -/
theorem Suggests.answered {q : SuggestQuery} {r : SuggestResult}
    (h : Suggests c q exchanges (.ok r)) (hwords : ¬Text.isBlankText q.words) :
    ∃ x, exchanges = [x] ∧ Answered c (Json.list? RawLocation.ofJson?) x := by
  generalize houtcome : (.ok r : Outcome SuggestResult) = outcome at h
  cases h with
  | blank blank => exact absurd blank hwords
  | misplaced place => cases houtcome
  | sent place answer =>
    refine ⟨_, rfl, ?_⟩
    cases hread : c.reading (Json.list? RawLocation.ofJson?) answer with
    | error e =>
      rw [locationsIn, hread] at houtcome
      cases houtcome
    | ok found => exact answered_of_reading hread

/-- Trouble of the backend is told by a status: searches and continuations fail with nothing but a
violated precondition, boards only for a blank id, and if something has been sent and all that came
back is trouble, then they say that the service is down. Suggestions for some words are given only
for one good answer. -/
theorem outages_are_told (c : Client) (backend : Backend σ) (s : σ) :
    (∀ q e s', (c.provider backend).queryTrips q s = (.error e, s') → e.isPrecondition) ∧
    (∀ context d e s', (c.provider backend).queryMoreTrips context d s = (.error e, s') →
      e.isPrecondition) ∧
    (∀ q, (∃ e, ((c.provider backend).queryDepartures q s).1 = .error e) ↔
      Text.isBlankText q.stationId) ∧
    (∀ q outcome s' log,
      (c.provider backend.recording).queryTrips q (s, []) = (outcome, s', log) →
      log ≠ [] → (∀ x ∈ log, TroubledTrip c x) →
      ∃ r, outcome = .ok r ∧ r.status = .serviceDown) ∧
    (∀ context d outcome s' log,
      (c.provider backend.recording).queryMoreTrips context d (s, []) = (outcome, s', log) →
      log ≠ [] → (∀ x ∈ log, TroubledTrip c x) →
      ∃ r, outcome = .ok r ∧ r.status = .serviceDown) ∧
    (∀ q outcome s' log,
      (c.provider backend.recording).queryDepartures q (s, []) = (outcome, s', log) →
      log ≠ [] → (∀ x ∈ log, Troubled c DeparturesAnswer.ofJson? x.2) →
      ∃ r, outcome = .ok r ∧ r.status = .serviceDown) ∧
    ∀ q r s' log,
      (c.provider backend.recording).suggestLocations q (s, []) = (.ok r, s', log) →
      ¬Text.isBlankText q.words →
      ∃ x, log = [x] ∧ Answered c (Json.list? RawLocation.ofJson?) x := by
  refine ⟨fun q e s' hrun => ?_, fun context d e s' hrun => ?_, fun q => ?_,
    fun q outcome s' log hrun hsent => ?_, fun context d outcome s' log hrun => ?_,
    fun q outcome s' log hrun => ?_, fun q r s' log hrun => ?_⟩
  · exact queryTrips_guards c backend q s e (by rw [hrun])
  · exact queryMoreTrips_guards c backend context d s e (by rw [hrun])
  · obtain ⟨exchanges, -, hboards⟩ := queryDepartures_traces c backend q s []
    exact hboards.fails_iff
  · by_cases hpermits : (c.provider backend).Permits q
    · exact ((queryTrips_traces hpermits).of_run hrun).status_of_trouble hsent
    · obtain ⟨e, -, hrefused⟩ :=
        Provider.queryTrips_refused (p := c.provider backend.recording) hpermits (s, [])
      rw [hrefused] at hrun
      cases hrun
      exact absurd rfl hsent
  · exact ((queryMoreTrips_traces c backend context d).of_run hrun).status_of_trouble
  · exact ((queryDepartures_traces c backend q).of_run hrun).status_of_trouble
  · exact ((suggestLocations_traces c backend q).of_run hrun).answered

/-- Never answers in time. -/
def silentBackend : Backend Unit := fun _ => return .timedOut

/-- Travels with nothing. -/
def stillQuery : TripsQuery := { TripsQuery.walk with options := { products := some .empty } }

/-- A result after one request that was not answered in time. -/
def isSilent : Outcome α × Unit × List Exchange → Bool
  | (.ok _, _, [(_, .timedOut)]) => true
  | _ => false

/-- What is said of the one request of a call that was not answered in time. -/
theorem exists_silence {run : Outcome α × Unit × List Exchange} {P : Exchange → Prop}
    {told : α → Prop} (h : isSilent run = true) (hP : ∀ url, P (url, .timedOut))
    (htold : ∀ outcome s' log, run = (outcome, s', log) → log ≠ [] → (∀ x ∈ log, P x) →
      ∃ r, outcome = .ok r ∧ told r) :
    ∃ r url, run = (.ok r, (), [(url, .timedOut)]) ∧ told r := by
  rw [isSilent.eq_def] at h
  split at h
  · rename_i r s' url
    obtain ⟨r', hr, htold⟩ := htold _ _ _ rfl (List.cons_ne_nil _ _) (by simpa using hP url)
    obtain rfl := Except.ok.inj hr
    exact ⟨r, url, rfl, htold⟩
  · cases h

theorem silence_is_told :
    (∃ e, (walkClient.provider silentBackend).queryTrips stillQuery () = (.error e, ()) ∧
      e.isPrecondition) ∧
    (∃ e, (walkClient.provider silentBackend).queryMoreTrips (emptyContext "hafas") .later () =
      (.error e, ()) ∧ e.isPrecondition) ∧
    (¬∃ e, ((walkClient.provider silentBackend).queryDepartures ⟨"1", none, 0, false⟩ ()).1 =
      .error e) ∧
    (∃ r url, (walkClient.provider silentBackend.recording).queryTrips namedQuery ((), []) =
      (.ok r, (), [(url, .timedOut)]) ∧ r.status = .serviceDown) ∧
    (∃ r url, (walkClient.provider silentBackend.recording).queryMoreTrips namedContext .later
      ((), []) = (.ok r, (), [(url, .timedOut)]) ∧ r.status = .serviceDown) ∧
    (∃ r url, (walkClient.provider silentBackend.recording).queryDepartures
      ⟨"1", none, 0, false⟩ ((), []) = (.ok r, (), [(url, .timedOut)]) ∧
        r.status = .serviceDown) ∧
    ∃ r x, (walkClient.provider namesakesBackend.recording).suggestLocations ⟨"A", .all, 0⟩
      ((), []) = (.ok r, (), [x]) ∧ Answered walkClient (Json.list? RawLocation.ofJson?) x := by
  obtain ⟨htrips, hmore, hboards, hsearch, hcontinued, hboard, -⟩ :=
    outages_are_told walkClient silentBackend ()
  obtain ⟨-, -, -, -, -, -, hsuggest⟩ := outages_are_told walkClient namesakesBackend ()
  have hsilence : ∀ url, TroubledTrip walkClient (url, .timedOut) :=
    fun url => ⟨fun _ => .timedOut, fun _ => .timedOut⟩
  refine ⟨⟨_, rfl, htrips stillQuery _ () rfl⟩,
    ⟨_, rfl, hmore (emptyContext "hafas") .later _ () rfl⟩, ?_, ?_, ?_, ?_, ?_⟩
  · rw [hboards]
    decide
  · exact exists_silence (by decide +kernel) hsilence (hsearch namedQuery)
  · exact exists_silence (by decide +kernel) hsilence (hcontinued namedContext .later)
  · exact exists_silence (by decide +kernel) (fun _ => .timedOut) (hboard ⟨"1", none, 0, false⟩)
  · have hfound : ((walkClient.provider namesakesBackend.recording).suggestLocations
        ⟨"A", .all, 0⟩ ((), [])).1.toOption.isSome = true := by decide +kernel
    rcases hrun : (walkClient.provider namesakesBackend.recording).suggestLocations ⟨"A", .all, 0⟩
      ((), []) with ⟨e | r, s', log⟩
    · rw [hrun] at hfound
      cases hfound
    · obtain ⟨x, rfl, hx⟩ := hsuggest _ r s' log hrun (by decide)
      exact ⟨r, x, rfl, hx⟩

end Client

end Transit.Hafas
