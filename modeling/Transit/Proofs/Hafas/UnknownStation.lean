import Transit.Proofs.Hafas.LocationList
import Transit.Proofs.Hafas.Verdict

/-! # Boards of unknown stations

A backend that does not know a station may say so by the HTTP status or by the codes of an error in
the body. A code in the body outweighs the HTTP status: an answer with status 404 whose body reports
an error with a code of its own is about the station only if this code says so.
-/
namespace Transit.Hafas.Client

variable {σ α : Type} {c : Client} {backend : Backend σ} {answer : Answer} {http : Nat}
  {body : String} {e : ErrorBody} {q : DeparturesQuery} {url : Url} {s s' : σ}

/-- The error is about the place that was asked for. -/
def Disowns (http : Nat) (e : ErrorBody) : Prop :=
  SaysMissing http e ∨ e.hafasCode = some "LOCATION"

instance (http : Nat) (e : ErrorBody) : Decidable (Disowns http e) :=
  inferInstanceAs (Decidable (_ ∨ _))

/-- The answer says that there is no such place. -/
inductive Disclaims (c : Client) (answer : Answer) : Prop
  | reported {http : Nat} {body : String} {e : ErrorBody} (refused : Refuses c answer http body)
    (reported : IsReport body e) (disowned : Disowns http e)
  | absent {body : String} (refused : Refuses c answer 404 body)
    (unreported : ∀ e, ¬IsReport body e)

theorem isNotFound_reported (h : IsReport body e) :
    (backendError http body).isNotFound = true ↔ Disowns http e := by
  rw [backendError, errorBody_iff.mpr h]
  simp [Error.isNotFound, code_eq_notFound, Disowns]

theorem isNotFound_unreported (h : ∀ e, ¬IsReport body e) :
    (backendError http body).isNotFound = true ↔ http = 404 := by
  rw [backendError, errorBody_eq_none h]
  by_cases habsent : http = 404 <;> simp [habsent, Error.isNotFound]

theorem Refuses.isNotFound_iff (h : Refuses c answer http body) :
    (backendError http body).isNotFound = true ↔ Disclaims c answer := by
  constructor
  · intro hmissing
    by_cases hreport : ∃ e, IsReport body e
    · obtain ⟨e, hreport⟩ := hreport
      exact .reported h hreport ((isNotFound_reported hreport).mp hmissing)
    · rw [not_exists] at hreport
      obtain rfl := (isNotFound_unreported hreport).mp hmissing
      exact .absent h hreport
  · rintro (⟨refused, reported, disowned⟩ | ⟨refused, unreported⟩)
    · obtain ⟨rfl, rfl⟩ := h.unique refused
      exact (isNotFound_reported reported).mpr disowned
    · obtain ⟨rfl, rfl⟩ := h.unique refused
      exact (isNotFound_unreported unreported).mpr rfl

theorem Disclaims.refuses (h : Disclaims c answer) : ∃ http body, Refuses c answer http body := by
  cases h with
  | reported refused | absent refused => exact ⟨_, _, refused⟩

/-- A failure that is about the place comes from such an answer. -/
theorem reading_isNotFound_iff (c : Client) (read : Json → Option α) (answer : Answer) :
    (∃ e, c.reading read answer = .error e ∧ e.isNotFound = true) ↔ Disclaims c answer := by
  constructor
  · rintro ⟨e, hread, hmissing⟩
    have htaken := reading_taken c read answer
    rw [hread] at htaken
    cases htaken with
    | timedOut | unreachable | limited | brokenOff | page | unreadable => cases hmissing
    | refused unlimited usual bad =>
      exact (Refuses.body bad unlimited (untriaged_iff.mpr usual)).isNotFound_iff.mp hmissing
  · intro h
    obtain ⟨http, body, refused⟩ := h.refuses
    exact ⟨_, reading_of_refuses read refused, refused.isNotFound_iff.mpr h⟩

theorem status_boardsResult (c : Client) (q : DeparturesQuery) (answer : Answer) :
    (c.boardsResult q (c.boardIn answer)).status = .invalidStation ↔ Disclaims c answer := by
  rw [← reading_isNotFound_iff c DeparturesAnswer.ofJson?, boardIn]
  rcases c.reading DeparturesAnswer.ofJson? answer with e | found
  · cases hmissing : e.isNotFound <;>
      simp [Except.map, boardsResult, hmissing, DeparturesResult.invalidStation,
        DeparturesResult.serviceDown]
  · simp [Except.map, boardsResult, DeparturesResult.found]

theorem queryDepartures_sent (accepted : q.validate = .ok ())
    (place : c.endpoint ["stops", q.stationId, "departures"] = .ok url)
    (answered : backend (url.withParams (boardParams c.config q (c.limit q.maxDepartures))) s =
      (answer, s')) :
    (c.provider backend).queryDepartures q s = (.ok (c.boardsResult q (c.boardIn answer)), s') := by
  have hfetch : c.fetchBoard backend q s = (c.boardIn answer, s') := by
    have hmade : c.fetchBoard backend q s = _ := fetchAs_made place DeparturesAnswer.ofJson?
      (boardParams c.config q (c.limit q.maxDepartures)) id s
    rw [hmade, answered]
    rfl
  change c.queryDepartures backend q s = _
  rw [queryDepartures, accepted]
  simp only [bind, StateT.bind, hfetch]
  rfl

theorem IsReport.untriaged (h : IsReport body e) (c : Client) (address : Url) :
    ¬Triaged c address body := by
  obtain ⟨j, htext, hread⟩ := Option.bind_eq_some_iff.mp h.1
  rw [ErrorBody.ofJson?] at hread
  obtain ⟨r, hr, -⟩ := Option.bind_eq_some_iff.mp hread
  rw [untriaged_iff, pageClass, looksLikeData_of_ofText? htext hr, if_pos rfl]

theorem IsReport.unique {e' : ErrorBody} (h : IsReport body e) (h' : IsReport body e') : e = e' :=
  Option.some.inj (h.1.symm.trans h'.1)

/-- With status 404, only an error with a code of its own is not about the place. -/
theorem disclaims_absent_iff (refused : Refuses c answer 404 body) :
    Disclaims c answer ↔ ∀ e, IsReport body e →
      e.code = none ∨ e.code = some "NOT_FOUND" ∨ e.hafasCode = some "LOCATION" := by
  rw [← refused.isNotFound_iff]
  by_cases hreport : ∃ e, IsReport body e
  · obtain ⟨e, hreport⟩ := hreport
    rw [isNotFound_reported hreport, Disowns, SaysMissing]
    constructor
    · intro h e' hreport'
      obtain rfl := hreport.unique hreport'
      tauto
    · intro h
      have hcodes := h e hreport
      tauto
  · rw [not_exists] at hreport
    rw [isNotFound_unreported hreport]
    exact iff_of_true rfl fun e h => absurd h (hreport e)

/-- A board has the status of an unknown station exactly for an answer that says that there is no
such place. An answer with status 404 that is no page says so, unless it reports an error with a
code of its own, and so does any other failure with one of the two codes for it, but for a limit on
the rate. -/
theorem unknown_station_told (accepted : q.validate = .ok ())
    (place : c.endpoint ["stops", q.stationId, "departures"] = .ok url)
    (answered : backend (url.withParams (boardParams c.config q (c.limit q.maxDepartures))) s =
      (answer, s')) :
    ∃ r, (c.provider backend).queryDepartures q s = (.ok r, s') ∧
      (r.status = .invalidStation ↔ Disclaims c answer) ∧
      (∀ retryAfter address body, answer = .response 404 retryAfter address (some body) →
        ¬Triaged c address body → (r.status = .invalidStation ↔ ∀ e, IsReport body e →
          e.code = none ∨ e.code = some "NOT_FOUND" ∨ e.hafasCode = some "LOCATION")) ∧
      ∀ http retryAfter address body e, answer = .response http retryAfter address (some body) →
        isSuccess http = false → http ≠ 429 → IsReport body e →
        e.code = some "NOT_FOUND" ∨ e.hafasCode = some "LOCATION" → r.status = .invalidStation := by
  have hstatus := status_boardsResult c q answer
  refine ⟨_, queryDepartures_sent accepted place answered, hstatus, ?_, ?_⟩
  · rintro retryAfter address body rfl untriaged
    rw [hstatus]
    exact disclaims_absent_iff (.body rfl (by decide) untriaged)
  · rintro http retryAfter address body e rfl failure unlimited reported hcode
    rw [hstatus]
    exact .reported (.body failure unlimited (reported.untriaged c address)) reported
      (hcode.imp .inl id)

/-- Answers with one error, whatever is asked for. -/
def errorBackend (http : Nat) (fields : List (String × Json)) : Backend Unit := fun url =>
  return Answer.response http none url (some (Json.obj fields).compact)

def boardQuery : DeparturesQuery := ⟨"1", none, 0, false⟩

theorem untriaged_compact (c : Client) (address : Url) (fields : List (String × Json)) :
    ¬Triaged c address (Json.obj fields).compact := by
  rw [untriaged_iff, pageClass, looksLikeData_compact, if_pos rfl]

/-- An error without fields says nothing, so that the HTTP status counts; the code for locations
counts with any status. -/
theorem unknown_station_told_twice :
    (∃ r, (walkClient.provider (errorBackend 404 [])).queryDepartures boardQuery () = (.ok r, ()) ∧
      r.status = .invalidStation) ∧
    ∃ r, (walkClient.provider (errorBackend 500 [("hafasCode", .str "LOCATION")])).queryDepartures
      boardQuery () = (.ok r, ()) ∧ r.status = .invalidStation := by
  obtain ⟨url, hurl⟩ : ∃ url,
      walkClient.endpoint ["stops", boardQuery.stationId, "departures"] = .ok url := ⟨_, rfl⟩
  obtain ⟨r, hr, -, habsent, -⟩ := @unknown_station_told _ _ (errorBackend 404 []) _ boardQuery
    _ () () rfl hurl rfl
  obtain ⟨r', hr', -, -, hcoded⟩ := @unknown_station_told _ _
    (errorBackend 500 [("hafasCode", .str "LOCATION")]) _ boardQuery _ () () rfl hurl rfl
  have hempty : (Json.obj []).isPlain 0 = true := by decide +kernel
  have hplain : (Json.obj [("hafasCode", .str "LOCATION")]).isPlain 0 = true := by decide +kernel
  refine ⟨⟨r, hr, (habsent _ _ _ rfl (untriaged_compact _ _ _)).mpr ?_⟩, r', hr', ?_⟩
  · rintro e ⟨hread, hsome⟩
    rw [Json.ofText_compact hempty] at hread
    obtain rfl := Option.some.inj hread
    exact .inl rfl
  · refine hcoded _ _ _ _ ⟨none, none, some "LOCATION", none, none⟩ rfl rfl (by decide) ?_ (.inr rfl)
    exact ⟨by rw [Json.ofText_compact hplain]; rfl, .inr (.inr rfl)⟩

/-- The body of an answer with status 404 reports another error, and the service is down. -/
theorem absent_station_hidden :
    ∃ r url, (walkClient.provider (errorBackend 404 [("code", .str "SERVER_ERROR")])).queryDepartures
        boardQuery () = (.ok r, ()) ∧ boardQuery.validate = .ok () ∧
      ¬Triaged walkClient url (Json.obj [("code", .str "SERVER_ERROR")]).compact ∧
      r.status = .serviceDown := by
  obtain ⟨url, hurl⟩ : ∃ url,
      walkClient.endpoint ["stops", boardQuery.stationId, "departures"] = .ok url := ⟨_, rfl⟩
  have hplain : (Json.obj [("code", .str "SERVER_ERROR")]).isPlain 0 = true := by decide +kernel
  have hreport : IsReport (Json.obj [("code", .str "SERVER_ERROR")]).compact
      ⟨none, some "SERVER_ERROR", none, none, none⟩ :=
    ⟨by rw [Json.ofText_compact hplain]; rfl, .inr (.inl rfl)⟩
  have hrefused : Refuses walkClient (.response 404 none _ _) 404 _ :=
    .body rfl (by decide) (untriaged_compact walkClient
      (url.withParams (boardParams walkClient.config boardQuery
        (walkClient.limit boardQuery.maxDepartures))) [("code", .str "SERVER_ERROR")])
  refine ⟨_, url, queryDepartures_sent rfl hurl rfl, rfl, untriaged_compact _ _ _, ?_⟩
  rw [boardIn, reading_of_refuses _ hrefused]
  have hfound : (backendError 404 (Json.obj [("code", .str "SERVER_ERROR")]).compact).isNotFound =
      false := by
    rw [Bool.eq_false_iff, ne_eq, isNotFound_reported hreport]
    decide
  simp [Except.map, boardsResult, hfound, DeparturesResult.serviceDown]

end Transit.Hafas.Client
