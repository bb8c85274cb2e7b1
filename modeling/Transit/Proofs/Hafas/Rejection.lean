import Transit.Proofs.Hafas.Course

/-! # Calls that are rejected

A call that is rejected as a violated precondition has sent nothing, but for one case: the places of
a search are looked up before they are checked. A rejected search has looked up all its names, and
has asked for nothing else.
-/
namespace Transit.Hafas

variable {σ α β : Type}

theorem Error.configuration_of_isPrecondition {e : Error} (h : e.toProviderError.isPrecondition) :
    ∃ message, e = .configuration message := by
  cases e with
  | configuration message => exact ⟨message, rfl⟩
  | connectionFailed | timeout | requestFailed | parse | rateLimit | backend | triage => cases h

theorem backendError_ne_configuration (status : Nat) (body message : String) :
    backendError status body ≠ .configuration message := by
  rw [backendError]
  split
  · exact nofun
  · split <;> exact nofun

namespace Client

variable {c : Client} {backend : Backend σ} {q : TripsQuery} {context : TripsContext}
  {d : Direction} {segments : List String} {exchanges : List Exchange}

/-- No answer is a failure of the settings. -/
theorem reading_ne_configuration (c : Client) (read : Json → Option α) (answer : Answer)
    (f : Url × α → β) (message : String) :
    (c.reading read answer).map f ≠ .error (.configuration message) := by
  intro h
  have htaken := reading_taken c read answer
  generalize c.reading read answer = outcome at htaken h
  cases htaken with
  | refused => exact backendError_ne_configuration _ _ _ (Except.error.inj h)
  | _ => cases h

/-- If there is a place for one request, there is one for any other. -/
theorem endpoint_ok {url : Url} (h : c.endpoint segments = .ok url) (others : List String) :
    ∃ url', c.endpoint others = .ok url' := by
  rw [endpoint, Url.descend?] at h
  rw [endpoint, Url.descend?]
  cases hpath : c.baseUrl.path with
  | plain text =>
    rw [hpath] at h
    cases h
  | segments names => exact ⟨_, rfl⟩

/-- If a request or more end with a failure of the settings, then none has been sent. -/
def Unsent (exchanges : List Exchange) (outcome : Except Error α) : Prop :=
  ∀ message, outcome = .error (.configuration message) → exchanges = []

theorem Unsent.of_error {e : Error} (h : Unsent exchanges (.error e : Except Error α)) :
    Unsent exchanges (.error e : Except Error β) := by
  rintro message ⟨⟩
  exact h message rfl

theorem Requests.unsent {params : Params} {read : Json → Option α} {f : Url × α → β}
    {outcome : Except Error β}
    (h : Requests c segments params (fun answer => (c.reading read answer).map f) exchanges
      outcome) : Unsent exchanges outcome := by
  intro message hfails
  cases h with
  | misplaced place => rfl
  | sent place answer => exact absurd hfails (reading_ne_configuration c read answer f message)

theorem Requests.placed {params : Params} {read : Answer → Except Error α}
    {outcome : Except Error α} (h : Requests c segments params read exchanges outcome)
    (hsent : exchanges ≠ []) (others : List String) : ∃ url, c.endpoint others = .ok url := by
  cases h with
  | misplaced place => exact absurd rfl hsent
  | sent place answer => exact endpoint_ok place others

/-- If a call is rejected as a violated precondition, then nothing has been sent. -/
def RejectsUnsent (exchanges : List Exchange) (outcome : Outcome α) : Prop :=
  ∀ e, outcome = .error e → e.isPrecondition → exchanges = []

theorem rejectsUnsent_ok (exchanges : List Exchange) (a : α) :
    RejectsUnsent exchanges (.ok a : Outcome α) := by
  rintro e ⟨⟩

theorem Unsent.rejectsUnsent {e : Error} (h : Unsent exchanges (.error e : Except Error α)) :
    RejectsUnsent exchanges (.error e.toProviderError : Outcome β) := by
  rintro _ ⟨⟩ he
  obtain ⟨message, rfl⟩ := Error.configuration_of_isPrecondition he
  exact h message rfl

theorem Suggests.rejectsUnsent {q : SuggestQuery} {outcome : Outcome SuggestResult}
    (h : Suggests c q exchanges outcome) : RejectsUnsent exchanges outcome := by
  intro e hfails he
  cases h with
  | blank | misplaced => rfl
  | sent place answer =>
    cases hfound : c.locationsIn q.types answer with
    | error e' =>
      rw [hfound] at hfails
      cases hfails
      obtain ⟨message, rfl⟩ := Error.configuration_of_isPrecondition he
      exact absurd hfound (reading_ne_configuration c _ answer _ message)
    | ok locations =>
      rw [hfound] at hfails
      cases hfails

theorem center_traces (c : Client) (backend : Backend σ) (anchor : Location) :
    Traces (fun exchanges outcome => Unsent exchanges outcome ∧
        (exchanges ≠ [] → ∀ others, ∃ url, c.endpoint others = .ok url))
      (c.center backend anchor) (c.center backend.recording anchor) := by
  rw [center.eq_def, center.eq_def]
  split
  · exact Traces.of_return ⟨nofun, fun hsent => absurd rfl hsent⟩
  · refine Fetched.traces_tryCatch
      (fetchAs_map_traces c backend RawLocation.ofJson?
        (fun found => found.2.toLocation?.bind Location.coordinate) _ _) ?_ ?_
    · intro exchanges point h
      exact ⟨nofun, h.placed⟩
    · intro exchanges e h
      split
      · refine Traces.of_return ?_
        rw [List.append_nil]
        exact ⟨nofun, h.placed⟩
      · refine Traces.of_return ?_
        rw [List.append_nil]
        exact ⟨h.unsent, h.placed⟩
  · exact Traces.of_return ⟨nofun, fun hsent => absurd rfl hsent⟩

theorem nearby_traces (c : Client) (backend : Backend σ) (q : NearbyQuery) :
    Traces Unsent (c.nearby backend q) (c.nearby backend.recording q) := by
  refine Fetched.traces_bind (center_traces c backend q.anchor) (fun earlier e h => h.1.of_error) ?_
  intro earlier found h
  cases found with
  | none => exact Traces.of_return nofun
  | some center =>
    refine (fetchAs_map_traces c backend (Json.list? RawLocation.ofJson?)
      (fun found => some (closest (c.limit q.maxResults) (measured center q.types found.2)))
      _ _).mono fun later outcome hlater message hfails => ?_
    obtain rfl := hlater.unsent message hfails
    rw [List.append_nil]
    -- Had a request been sent for the center, there would have been a place for this one as well.
    by_contra hsent
    obtain ⟨url, hurl⟩ := h.2 hsent ["locations", "nearby"]
    cases hlater with
    | misplaced place =>
      rw [hurl] at place
      cases place

theorem queryNearby_traces (c : Client) (backend : Backend σ) (q : NearbyQuery) :
    Traces RejectsUnsent (c.queryNearby backend q) (c.queryNearby backend.recording q) := by
  rw [queryNearby, queryNearby]
  cases hvalid : q.validate with
  | error e => exact Traces.of_return fun _ _ _ => rfl
  | ok =>
    refine Traces.bind (nearby_traces c backend q) fun exchanges outcome h => ?_
    rcases outcome with e | (_ | locations)
    · refine Traces.of_return ?_
      rw [List.append_nil]
      exact h.rejectsUnsent
    · exact Traces.of_return (rejectsUnsent_ok _ _)
    · exact Traces.of_return (rejectsUnsent_ok _ _)

theorem Boards.rejectsUnsent {q : DeparturesQuery} {outcome : Outcome DeparturesResult}
    (h : Boards c q exchanges outcome) : RejectsUnsent exchanges outcome := by
  rintro e rfl -
  cases h with
  | rejected blank => rfl

theorem Continues.rejectsUnsent {outcome : Outcome TripsResult}
    (h : Continues c context d exchanges outcome) : RejectsUnsent exchanges outcome := by
  rintro e rfl -
  cases h with
  | rejected violated => rfl

/-- A search that is rejected has looked up all its names. -/
theorem Searches.looked_up {e : ProviderError} (h : Searches c q exchanges (.error e)) :
    (∀ x ∈ exchanges, c.IsLookup x.1) ∧ exchanges.length = (namesOf q.places).length := by
  obtain ⟨lookups, found, search, rfl, hvisits, hends⟩ := h
  cases hends with
  | rejected checked =>
    rw [List.append_nil]
    exact ⟨hvisits.isLookup, hvisits.length_eq⟩

/-- What is on the record of a call that is rejected as a violated precondition, whatever the
backend answers: nothing, unless the call is a search that was let through. This one has looked up
all its names, if there are any, and nothing else. -/
theorem rejections_look_up (c : Client) (backend : Backend σ) (s : σ) :
    (∀ q e s' log, (c.provider backend.recording).suggestLocations q (s, []) =
      (.error e, s', log) → e.isPrecondition → log = []) ∧
    (∀ q e s' log, (c.provider backend.recording).queryNearby q (s, []) =
      (.error e, s', log) → e.isPrecondition → log = []) ∧
    (∀ q e s' log, (c.provider backend.recording).queryDepartures q (s, []) =
      (.error e, s', log) → e.isPrecondition → log = []) ∧
    (∀ context d e s' log, (c.provider backend.recording).queryMoreTrips context d (s, []) =
      (.error e, s', log) → e.isPrecondition → log = []) ∧
    ∀ q e s' log, (c.provider backend.recording).queryTrips q (s, []) = (.error e, s', log) →
      e.isPrecondition → (¬(c.provider backend).Permits q → log = []) ∧
        ((c.provider backend).Permits q → (∀ x ∈ log, c.IsLookup x.1) ∧
          log.length = (namesOf q.places).length) := by
  refine ⟨fun q e s' log hrun => ?_, fun q e s' log hrun => ?_, fun q e s' log hrun => ?_,
    fun context d e s' log hrun => ?_, fun q e s' log hrun _ => ⟨fun hrefused => ?_, ?_⟩⟩
  · exact ((suggestLocations_traces c backend q).of_run hrun).rejectsUnsent e rfl
  · exact (queryNearby_traces c backend q).of_run hrun e rfl
  · exact ((queryDepartures_traces c backend q).of_run hrun).rejectsUnsent e rfl
  · exact ((queryMoreTrips_traces c backend context d).of_run hrun).rejectsUnsent e rfl
  · obtain ⟨e', -, hrejected⟩ :=
      Provider.queryTrips_refused (p := c.provider backend.recording) hrefused (s, [])
    rw [hrejected] at hrun
    cases hrun
    rfl
  · exact fun hpermits => ((queryTrips_traces hpermits).of_run hrun).looked_up

/-- Knows one stop by each name. -/
def stopBackend : Backend Unit := fun url =>
  return Answer.response 200 none url (some (Json.arr [
    .obj [("type", .str "stop"), ("id", .str "1")]]).compact)

def isRejected : Outcome α → Bool
  | .error e => e.isPrecondition
  | .ok _ => false

/-- To an address that is nowhere. -/
def addressQuery : TripsQuery :=
  { namedQuery with destination := ⟨.address, none, none, none, some "Street 1"⟩ }

theorem addressQuery_rejected :
    ∃ e log, e.isPrecondition ∧
      (walkClient.provider stopBackend.recording).queryTrips addressQuery ((), []) =
        (.error e, (), log) := by
  have hrejected : isRejected ((walkClient.provider stopBackend.recording).queryTrips addressQuery
      ((), [])).1 = true := by decide +kernel
  rcases hrun : (walkClient.provider stopBackend.recording).queryTrips addressQuery ((), [])
    with ⟨e | r, s', log⟩
  · rw [hrun] at hrejected
    exact ⟨e, log, hrejected, rfl⟩
  · rw [hrun] at hrejected
    cases hrejected

theorem addressQuery_permitted : (walkClient.provider stopBackend).Permits addressQuery :=
  ⟨rfl, nofun, nofun⟩

/-- The destination is found to be nowhere when the origin has been looked up. -/
theorem address_rejected_late :
    ∃ e log, e.isPrecondition ∧ log ≠ [] ∧
      (walkClient.provider stopBackend.recording).queryTrips addressQuery ((), []) =
        (.error e, (), log) := by
  obtain ⟨e, log, he, hrun⟩ := addressQuery_rejected
  have hlength : log.length = 1 :=
    ((queryTrips_traces addressQuery_permitted).of_run hrun).looked_up.2
  exact ⟨e, log, he, List.ne_nil_of_length_eq_add_one hlength, hrun⟩

theorem address_rejections_look_up :
    ∃ e log, e.isPrecondition ∧
      (walkClient.provider stopBackend.recording).queryTrips addressQuery ((), []) =
        (.error e, (), log) ∧
      (∀ x ∈ log, walkClient.IsLookup x.1) ∧ log.length = 1 := by
  obtain ⟨e, log, he, hrun⟩ := addressQuery_rejected
  obtain ⟨-, -, -, -, htrips⟩ := rejections_look_up walkClient stopBackend ()
  obtain ⟨-, hlookups⟩ := htrips addressQuery e () log hrun he
  obtain ⟨hall, hlength⟩ := hlookups addressQuery_permitted
  exact ⟨e, log, he, hrun, hall, hlength⟩

end Client

end Transit.Hafas
