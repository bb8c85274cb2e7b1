import Transit.Proofs.Hafas.Course

/-! # Worth another attempt

A failure of a request and the error that a caller is given for it each say whether another attempt
is worth while. The two differ for pages that are neither an expired session nor an internal error:
such a page is reported as a failure of the transport, as every page is. Suggestions and closest
locations report what the answers to their requests have come to.
-/
namespace Transit.Hafas

variable {σ α β : Type}

namespace Error

variable {e : Error}

/-- A page that is neither an expired session nor an internal error. -/
def IsOtherPage (e : Error) : Prop :=
  ∃ page, e = .triage page ∧ page ≠ .sessionExpired ∧ page ≠ .internalError

/-- Reported to the caller as worth another attempt. -/
def IsReported (e : Error) : Prop := e.toProviderError.isRetryable = true

theorem isReported_iff : e.IsReported ↔ e.isRetryable = true ∨ e.IsOtherPage := by
  rw [IsReported, IsOtherPage]
  cases e with
  | triage page => cases page <;> simp [toProviderError, ProviderError.isRetryable, isRetryable]
  | _ => simp [toProviderError, ProviderError.isRetryable, isRetryable]

theorem not_isRetryable_of_isOtherPage (h : e.IsOtherPage) : e.isRetryable = false := by
  obtain ⟨page, rfl, hexpired, hinternal⟩ := h
  simp [isRetryable, hexpired, hinternal]

/-- The two sides agree but for such a page. -/
theorem retryable_agree_iff (e : Error) :
    e.toProviderError.isRetryable = e.isRetryable ↔ ¬e.IsOtherPage := by
  have hreported := isReported_iff (e := e)
  rw [IsReported] at hreported
  by_cases hpage : e.IsOtherPage
  · simp [hreported.mpr (.inr hpage), not_isRetryable_of_isOtherPage hpage, hpage]
  · simp only [hpage, or_false] at hreported
    exact iff_of_true (Bool.eq_iff_iff.mpr hreported) hpage

theorem timed_out_iff (e : Error) :
    (∃ message, e.toProviderError = .transport message true) ↔ ∃ n, e = .timeout n := by
  cases e <;> simp [toProviderError]

theorem IsReported.ne_parse (h : e.IsReported) (message : String) : e ≠ .parse message := by
  rintro rfl
  cases h

theorem IsReported.ne_configuration (h : e.IsReported) (message : String) :
    e ≠ .configuration message := by
  rintro rfl
  cases h

theorem IsReported.isNotFound (h : e.IsReported) : e.isNotFound = false := by
  cases e with
  | backend => cases h
  | _ => rfl

end Error

namespace Client

open Error (IsReported)

variable {c : Client} {backend : Backend σ} {answer : Answer} {e : Error} {segments : List String}
  {params : Params} {exchanges earlier later log : List Exchange} {read : Json → Option α}

theorem endpoint_eq_error (h : c.endpoint segments = .error e) :
    ∃ message, e = .configuration message := by
  rw [endpoint] at h
  split at h
  · cases h
  · cases h
    exact ⟨_, rfl⟩

/-- What is reported is a failure of the answer itself, and not of reading its data. -/
theorem reading_eq_error_iff (he : e.IsReported) :
    c.reading read answer = .error e ↔ answer.body c.config c.triage = .error e := by
  rw [reading]
  cases hbody : answer.body c.config c.triage with
  | error e' => simp [bind, Except.bind]
  | ok found =>
    simp only [reduceCtorEq, iff_false]
    intro h
    change (readBody read found.2 >>= _) = _ at h
    rw [readBody] at h
    cases hread : (Json.ofText? found.2).bind read with
    | none =>
      rw [hread] at h
      exact he.ne_parse _ (Except.error.inj h).symm
    | some a =>
      rw [hread] at h
      cases h

/-- A call fails with what is to be reported exactly if an answer has failed so. -/
def Told (c : Client) (exchanges : List Exchange) (outcome : Except Error α) : Prop :=
  ∀ e : Error, e.IsReported →
    (outcome = .error e ↔ ∃ x ∈ exchanges, x.2.body c.config c.triage = .error e)

theorem Told.of_error (h : Told c exchanges (.error e : Except Error α)) :
    Told c exchanges (.error e : Except Error β) := by
  intro e' he'
  rw [← h e' he', Except.error.injEq, Except.error.injEq]

/-- Such a call may follow on one that has not failed. -/
theorem Told.after {a : α} {outcome : Except Error β} (h : Told c earlier (.ok a))
    (h' : Told c later outcome) : Told c (earlier ++ later) outcome := by
  intro e he
  have hearlier : ¬∃ x ∈ earlier, x.2.body c.config c.triage = .error e :=
    mt (h e he).mpr nofun
  rw [h' e he]
  simp only [List.mem_append, or_and_right, exists_or, hearlier, false_or]

/-- Without requests nothing is to be reported. -/
theorem told_nil {outcome : Except Error α} (h : ∀ e : Error, e.IsReported → outcome ≠ .error e) :
    Told c [] outcome := fun e he => iff_of_false (h e he) (by simp)

theorem told_ok (a : α) : Told c [] (.ok a : Except Error α) := told_nil fun _ _ => nofun

theorem Requests.told {f : Url × α → β} {outcome : Except Error β}
    (h : Requests c segments params (fun answer => (c.reading read answer).map f) exchanges
      outcome) : Told c exchanges outcome := by
  cases h with
  | misplaced place =>
    obtain ⟨message, rfl⟩ := endpoint_eq_error place
    exact told_nil fun e he => by simpa using (he.ne_configuration message).symm
  | sent place answer =>
    intro e he
    have hread : c.reading read answer = .error e ↔ _ := reading_eq_error_iff he
    simp only [List.mem_singleton, exists_eq_left, ← hread]
    cases c.reading read answer <;> simp [Except.map]

theorem center_told (c : Client) (backend : Backend σ) (anchor : Location) :
    Traces (Told c) (c.center backend anchor) (c.center backend.recording anchor) := by
  rw [center.eq_def, center.eq_def]
  split
  · exact Traces.of_return (told_ok _)
  · refine Fetched.traces_tryCatch
      (fetchAs_map_traces c backend RawLocation.ofJson?
        (fun found => found.2.toLocation?.bind Location.coordinate) _ _) ?_ ?_
    · exact fun exchanges point h => h.told
    · intro exchanges e h
      have htold := h.told
      split
      · rename_i hmissing
        refine Traces.of_return fun e' he' => ?_
        -- An unknown station is no failure to report.
        have hne : e ≠ e' := by
          rintro rfl
          rw [he'.isNotFound] at hmissing
          cases hmissing
        rw [List.append_nil, ← htold e' he']
        simp [hne]
      · refine Traces.of_return ?_
        rw [List.append_nil]
        exact htold
  · exact Traces.of_return (told_ok _)

theorem nearby_told (c : Client) (backend : Backend σ) (q : NearbyQuery) :
    Traces (Told c) (c.nearby backend q) (c.nearby backend.recording q) := by
  refine Fetched.traces_bind (center_told c backend q.anchor) (fun earlier e h => h.of_error) ?_
  intro earlier found h
  cases found with
  | none => exact Traces.of_return (h.after (told_ok _))
  | some center =>
    exact (fetchAs_map_traces c backend (Json.list? RawLocation.ofJson?)
      (fun found => some (closest (c.limit q.maxResults) (measured center q.types found.2)))
      _ _).mono fun later outcome hlater => h.after hlater.told

/-! ### What the caller is told -/

theorem taken_of_body (h : answer.body c.config c.triage = .error e) (read : Json → Option α) :
    Taken c read answer (.error e) := by
  have htaken := reading_taken c read answer
  rw [reading, h] at htaken
  exact htaken

theorem backendError_cases (http : Nat) (body : String) :
    (∃ code hafasCode message, backendError http body = .backend code hafasCode message) ∨
      ∃ message, backendError http body = .requestFailed message := by
  rw [backendError]
  split
  · exact .inl ⟨_, _, _, rfl⟩
  · split
    · exact .inl ⟨_, _, _, rfl⟩
    · exact .inr ⟨_, rfl⟩

theorem body_timeout_iff : (∃ n, answer.body c.config c.triage = .error (.timeout n)) ↔
    answer = .timedOut := by
  constructor
  · rintro ⟨n, hbody⟩
    have htaken := taken_of_body hbody some
    generalize hfailed : (.error (.timeout n) : Except Error (Url × Json)) = outcome at htaken
    cases htaken with
    | timedOut => rfl
    | @refused http _ _ body =>
      rcases backendError_cases http body with ⟨_, _, _, he⟩ | ⟨_, he⟩ <;>
        simp [he] at hfailed
    | _ => cases hfailed
  · rintro rfl
    exact ⟨_, rfl⟩

/-- A page that an answer has is classified as something, and a page of another kind leads to
another address. -/
theorem isOtherPage_iff (hbody : answer.body c.config c.triage = .error e) :
    e.IsOtherPage ↔ ∃ url, e = .triage (.redirect url) := by
  constructor
  · rintro ⟨page, rfl, hexpired, hinternal⟩
    have htaken := taken_of_body hbody some
    generalize hfailed : (.error (.triage page) : Except Error (Url × Json)) = outcome at htaken
    cases htaken with
    | page unlimited triaged strange =>
      cases hfailed
      cases page with
      | redirect url => exact ⟨url, rfl⟩
      | normal => exact absurd rfl strange
      | sessionExpired => exact absurd rfl hexpired
      | internalError => exact absurd rfl hinternal
    | @refused http _ _ body =>
      rcases backendError_cases http body with ⟨_, _, _, he⟩ | ⟨_, he⟩ <;>
        simp [he] at hfailed
    | _ => cases hfailed
  · rintro ⟨url, rfl⟩
    exact ⟨_, rfl, nofun, nofun⟩

/-- What comes out of a call is worth another attempt exactly if an answer to its requests has
failed so, or is a page that leads elsewhere; and it is an expired time exactly if an answer did not
come in time. -/
structure TellsRetry (c : Client) (log : List Exchange) (outcome : Outcome α) : Prop where
  retryable : (∃ p, outcome = .error p ∧ p.isRetryable = true) ↔
    ∃ x ∈ log, ∃ e, x.2.body c.config c.triage = .error e ∧
      (e.isRetryable = true ∨ ∃ url, e = .triage (.redirect url))
  timedOut : (∃ message, outcome = .error (.transport message true)) ↔ ∃ x ∈ log, x.2 = .timedOut

/-- The outcome of a call whose failures are told as errors of the provider. -/
theorem Told.tellsRetry {outcome : Except Error α} {result : Outcome β} (h : Told c log outcome)
    (hresult : ∀ p, result = .error p ↔ ∃ e, outcome = .error e ∧ p = e.toProviderError) :
    TellsRetry c log result where
  retryable := by
    constructor
    · rintro ⟨p, hp, hretryable⟩
      obtain ⟨e, he, rfl⟩ := (hresult p).mp hp
      obtain ⟨x, hx, hbody⟩ := (h e hretryable).mp he
      refine ⟨x, hx, e, hbody, ?_⟩
      rw [← isOtherPage_iff hbody]
      exact Error.isReported_iff.mp hretryable
    · rintro ⟨x, hx, e, hbody, htold⟩
      rw [← isOtherPage_iff hbody] at htold
      have he : e.IsReported := Error.isReported_iff.mpr htold
      exact ⟨_, (hresult _).mpr ⟨e, (h e he).mpr ⟨x, hx, hbody⟩, rfl⟩, he⟩
  timedOut := by
    constructor
    · rintro ⟨message, hp⟩
      obtain ⟨e, he, hmessage⟩ := (hresult _).mp hp
      obtain ⟨n, rfl⟩ := (Error.timed_out_iff e).mp ⟨message, hmessage.symm⟩
      obtain ⟨x, hx, hbody⟩ := (h (.timeout n) rfl).mp he
      exact ⟨x, hx, body_timeout_iff.mp ⟨n, hbody⟩⟩
    · rintro ⟨x, hx, hanswer⟩
      obtain ⟨n, hbody⟩ := body_timeout_iff (c := c).mpr hanswer
      exact ⟨_, (hresult _).mpr ⟨.timeout n, (h (.timeout n) rfl).mpr ⟨x, hx, hbody⟩, rfl⟩⟩

theorem Suggests.tellsRetry {q : SuggestQuery} {outcome : Outcome SuggestResult}
    (h : Suggests c q log outcome) : TellsRetry c log outcome := by
  have hsuggested (found : Except Error (List Location)) (p : ProviderError) :
      c.suggested found = .error p ↔ ∃ e, found = .error e ∧ p = e.toProviderError := by
    cases found <;> simp [suggested, eq_comm]
  cases h with
  | blank blank => exact (told_ok ()).tellsRetry (by simp)
  | misplaced place =>
    have hrequest : Requests c ["locations"] [] (c.locationsIn q.types) [] _ := .misplaced place
    exact hrequest.told.tellsRetry (hsuggested _)
  | sent place answer =>
    have hrequest : Requests c ["locations"] (searchParams c.config (Text.trim q.words) q.types
      (c.limit q.maxResults)) (c.locationsIn q.types) _ _ := .sent place answer
    exact hrequest.told.tellsRetry (hsuggested _)

theorem validate_eq_error {q : NearbyQuery} {p : ProviderError} (h : q.validate = .error p) :
    ∃ message, p = .precondition message := by
  rw [NearbyQuery.validate] at h
  split at h
  · exact ⟨_, (Except.error.inj h).symm⟩
  · cases h

theorem queryNearby_tellsRetry (c : Client) (backend : Backend σ) (q : NearbyQuery) :
    Traces (TellsRetry c) (c.queryNearby backend q) (c.queryNearby backend.recording q) := by
  rw [queryNearby, queryNearby]
  cases hvalid : q.validate with
  | error p =>
    obtain ⟨message, rfl⟩ := validate_eq_error hvalid
    -- A rejected query reads like a failure of the settings.
    have hnone : Told c [] (.error (.configuration message) : Except Error Unit) :=
      told_nil fun e he => by simpa using (he.ne_configuration message).symm
    exact Traces.of_return (hnone.tellsRetry (by simp [Error.toProviderError, eq_comm]))
  | ok =>
    refine Traces.bind (nearby_told c backend q) fun exchanges outcome h => ?_
    rcases outcome with e | (_ | locations)
    · refine Traces.of_return (?_ : TellsRetry c _ (.error e.toProviderError))
      rw [List.append_nil]
      exact h.tellsRetry (by simp [eq_comm])
    · refine Traces.of_return (?_ : TellsRetry c _ (.ok _))
      rw [List.append_nil]
      exact h.tellsRetry (by simp)
    · refine Traces.of_return (?_ : TellsRetry c _ (.ok _))
      rw [List.append_nil]
      exact h.tellsRetry (by simp)

/-- Two views of whether another attempt is worth while: they agree on a failure exactly if it is no
page other than an expired session and an internal error, and such a page is always reported as worth
one. Suggestions and closest locations report what their answers have come to, and a page that leads
elsewhere is the one failure that they report so although it is not worth another attempt. -/
theorem retry_told (c : Client) (backend : Backend σ) (s : σ) :
    (∀ e : Error, (e.toProviderError.isRetryable = e.isRetryable ↔ ¬e.IsOtherPage) ∧
      (e.IsOtherPage → e.isRetryable = false) ∧
      ((∃ message, e.toProviderError = .transport message true) ↔ ∃ n, e = .timeout n)) ∧
    (∀ q, let run := (c.provider backend.recording).suggestLocations q (s, [])
      TellsRetry c run.2.2 run.1) ∧
    ∀ q, let run := (c.provider backend.recording).queryNearby q (s, [])
      TellsRetry c run.2.2 run.1 := by
  refine ⟨fun e => ?_, fun q => ?_, fun q => ?_⟩
  · exact ⟨e.retryable_agree_iff, Error.not_isRetryable_of_isOtherPage, e.timed_out_iff⟩
  · exact ((suggestLocations_traces c backend q).of_run rfl).tellsRetry
  · exact (queryNearby_tellsRetry c backend q).of_run rfl

/-- Answers with a page that leads to another address. -/
def elsewhereBackend : Backend Unit := fun url =>
  return Answer.response 200 none url
    (some "<meta http-equiv=\"refresh\" content=\"0; url=http://h\">")

/-- A retryable error after one request, whose answer is a page that leads elsewhere. -/
def isLedElsewhere (c : Client) : Outcome α × Unit × List Exchange → Bool
  | (.error p, _, [(_, answer)]) => p.isRetryable && match answer.body c.config c.triage with
    | .error (.triage (.redirect _)) => true
    | _ => false
  | _ => false

/-- The page is not worth another attempt, and suggestions report that it is. -/
theorem redirect_told_as_retryable :
    ∃ p x url, (walkClient.provider elsewhereBackend.recording).suggestLocations ⟨"A", .all, 0⟩
        ((), []) = (.error p, (), [x]) ∧
      x.2.body walkClient.config walkClient.triage = .error (.triage (.redirect url)) ∧
      (Error.triage (.redirect url)).isRetryable = false ∧
      (Error.triage (.redirect url)).toProviderError.isRetryable = true ∧ p.isRetryable = true := by
  have hled : isLedElsewhere walkClient ((walkClient.provider
      elsewhereBackend.recording).suggestLocations ⟨"A", .all, 0⟩ ((), [])) = true := by
    decide +kernel
  rw [isLedElsewhere.eq_def] at hled
  split at hled
  next p s' url answer hrun =>
    rw [Bool.and_eq_true] at hled
    obtain ⟨hretryable, hpage⟩ := hled
    split at hpage
    next target hbody => exact ⟨p, (url, answer), target, hrun, hbody, rfl, rfl, hretryable⟩
    next => cases hpage
  next => cases hled

end Client

end Transit.Hafas
