import Transit.Proofs.Hafas.Permission
import Transit.Proofs.Hafas.Search

/-! # The course of the other calls

Continuations, suggestions and boards are one request each, if they are not settled without any.
What such a call comes to is what is read from the answer.
-/
namespace Transit.Hafas.Client

variable {σ : Type} {c : Client}

/-- The request of a continuation, and what it comes to. -/
inductive Continues (c : Client) (context : TripsContext) (d : Direction) :
    List Exchange → Outcome TripsResult → Prop
  | rejected {e : ProviderError} (violated : e.isPrecondition) : Continues c context d [] (.error e)
  | misplaced {token : JourneyToken} {e : Error}
    (decoded : JourneyToken.ofContext context = .ok token)
    (place : c.endpoint ["journeys"] = .error e) :
    Continues c context d []
      (.ok (Provider.advance context.window d (c.turned token d (.error e))))
  | sent {token : JourneyToken} {reference : String} {url : Url}
    (decoded : JourneyToken.ofContext context = .ok token)
    (referred : token.reference d = some reference) (place : c.endpoint ["journeys"] = .ok url)
    (answer : Answer) :
    Continues c context d [(url.withParams (token.params ++ [referenceParam d reference]), answer)]
      (.ok (Provider.advance context.window d (c.turned token d (c.pageIn answer))))

theorem continueJourneys_traces (c : Client) (backend : Backend σ) {context : TripsContext}
    {token : JourneyToken} (decoded : JourneyToken.ofContext context = .ok token) (d : Direction) :
    Traces (fun exchanges outcome =>
        Continues c context d exchanges (outcome.map (Provider.advance context.window d)))
      (c.continueJourneys backend token d) (c.continueJourneys backend.recording token d) := by
  rw [continueJourneys, continueJourneys]
  cases hreference : token.reference d with
  | none => exact Traces.of_return (.rejected rfl)
  | some reference =>
    refine Traces.bind (journeys_traces c backend _) ?_
    intro exchanges outcome h
    cases h with
    | misplaced place => exact Traces.of_return (.misplaced decoded place)
    | sent place answer =>
      have hsent := Continues.sent decoded hreference place answer
      cases hpage : c.pageIn answer with
      | error e =>
        rw [hpage] at hsent
        exact Traces.of_return hsent
      | ok page =>
        rw [hpage] at hsent
        exact Traces.of_return hsent

theorem requestMoreTrips_traces (c : Client) (backend : Backend σ) (context : TripsContext)
    (d : Direction) :
    Traces (fun exchanges outcome =>
        Continues c context d exchanges (outcome.map (Provider.advance context.window d)))
      (c.requestMoreTrips backend context d) (c.requestMoreTrips backend.recording context d) := by
  rw [requestMoreTrips.eq_def, requestMoreTrips.eq_def]
  cases hdecoded : JourneyToken.ofContext context with
  | error e => exact Traces.of_return (.rejected (JourneyToken.ofContext_guards context e hdecoded))
  | ok token => exact continueJourneys_traces c backend hdecoded d

/-- The course of a continuation, whatever context it is given. -/
theorem queryMoreTrips_traces (c : Client) (backend : Backend σ) (context : TripsContext)
    (d : Direction) :
    Traces (Continues c context d) ((c.provider backend).queryMoreTrips context d)
      ((c.provider backend.recording).queryMoreTrips context d) := by
  intro s log
  cases hpermit : (c.provider backend).permitMore context d with
  | error e =>
    have hpermit' : (c.provider backend.recording).permitMore context d = .error e := hpermit
    rw [Provider.queryMoreTrips_rejected hpermit, Provider.queryMoreTrips_rejected hpermit']
    exact ⟨[], by rw [List.append_nil],
      .rejected ((c.provider backend).permitMore_guards context d e hpermit)⟩
  | ok =>
    have hpermit' : (c.provider backend.recording).permitMore context d = .ok () := hpermit
    rw [Provider.queryMoreTrips_permitted hpermit, Provider.queryMoreTrips_permitted hpermit']
    obtain ⟨exchanges, hrun, hcontinues⟩ := requestMoreTrips_traces c backend context d s log
    have hrun' : (c.provider backend.recording).requestMoreTrips context d (s, log) = _ := hrun
    rw [hrun']
    exact ⟨exchanges, rfl, hcontinues⟩

/-- What suggestions are made of what was found. -/
def suggested (c : Client) : Except Error (List Location) → Outcome SuggestResult
  | .error e => .error e.toProviderError
  | .ok locations => .ok (.found (c.header none) (ranking locations))

/-- The request for suggestions, and what it comes to. A blank text needs none. -/
inductive Suggests (c : Client) (q : SuggestQuery) :
    List Exchange → Outcome SuggestResult → Prop
  | blank (blank : Text.isBlankText q.words) : Suggests c q [] (.ok (.found (c.header none) []))
  | misplaced {e : Error} (place : c.endpoint ["locations"] = .error e) :
    Suggests c q [] (c.suggested (.error e))
  | sent {url : Url} (place : c.endpoint ["locations"] = .ok url) (answer : Answer) :
    Suggests c q [(url.withParams (searchParams c.config (Text.trim q.words) q.types
      (c.limit q.maxResults)), answer)] (c.suggested (c.locationsIn q.types answer))

theorem suggestLocations_traces (c : Client) (backend : Backend σ) (q : SuggestQuery) :
    Traces (Suggests c q) (c.suggestLocations backend q)
      (c.suggestLocations backend.recording q) := by
  rw [suggestLocations, suggestLocations]
  split
  · rename_i hblank
    exact Traces.of_return (.blank hblank)
  · refine Traces.bind (search_traces c backend _ _ _) fun exchanges outcome h => ?_
    cases h with
    | misplaced place => exact Traces.of_return (.misplaced place)
    | sent place answer =>
      have hsent : Suggests c q _ _ := .sent place answer
      cases hfound : c.locationsIn q.types answer with
      | error e =>
        rw [hfound] at hsent
        exact Traces.of_return hsent
      | ok locations =>
        rw [hfound] at hsent
        exact Traces.of_return hsent

/-- The board that is read from an answer. -/
def boardIn (c : Client) (answer : Answer) : Except Error DeparturesAnswer :=
  (c.reading DeparturesAnswer.ofJson? answer).map Prod.snd

/-- The request for boards, and what it comes to. Only a blank id is rejected. -/
inductive Boards (c : Client) (q : DeparturesQuery) :
    List Exchange → Outcome DeparturesResult → Prop
  | rejected {message : String} (blank : Text.isBlankText q.stationId) :
    Boards c q [] (.error (.precondition message))
  | misplaced {e : Error} (named : ¬Text.isBlankText q.stationId)
    (place : c.endpoint ["stops", q.stationId, "departures"] = .error e) :
    Boards c q [] (.ok (c.boardsResult q (.error e)))
  | sent {url : Url} (named : ¬Text.isBlankText q.stationId)
    (place : c.endpoint ["stops", q.stationId, "departures"] = .ok url) (answer : Answer) :
    Boards c q [(url.withParams (boardParams c.config q (c.limit q.maxDepartures)), answer)]
      (.ok (c.boardsResult q (c.boardIn answer)))

theorem queryDepartures_traces (c : Client) (backend : Backend σ) (q : DeparturesQuery) :
    Traces (Boards c q) (c.queryDepartures backend q)
      (c.queryDepartures backend.recording q) := by
  rw [queryDepartures, queryDepartures, DeparturesQuery.validate]
  by_cases hblank : Text.isBlankText q.stationId
  · rw [if_pos hblank]
    exact Traces.of_return (.rejected hblank)
  · rw [if_neg hblank]
    refine Traces.bind (fetchAs_map_traces c backend DeparturesAnswer.ofJson? Prod.snd _ _) ?_
    intro exchanges outcome h
    cases h with
    | misplaced place => exact Traces.of_return (.misplaced hblank place)
    | sent place answer => exact Traces.of_return (.sent hblank place answer)

end Transit.Hafas.Client
