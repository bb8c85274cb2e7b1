import Mathlib.Data.List.TakeWhile
import Transit.Proofs.Distinct
import Transit.Proofs.Json.Container
import Transit.Proofs.Hafas.Outage

/-! # What an answer says of a search

The answer to a request for journeys stands for one status. Good data tell whether there are trips.
An error tells it by its code if this is a listed one, else by whether the backend knows what was
asked for. Everything else says that the service is down. Of the HTTP status it matters only whether
it is a success, 404, or a limit on the rate.
-/
namespace Transit.Hafas.Client

/-- The codes that errors are told apart by. -/
def listedCodes : List (String × TripsStatus) :=
  [("H890", .noTrips), ("H891", .noTrips), ("H892", .noTrips), ("H9240", .noTrips),
    ("H9220", .noTrips), ("H9380", .tooClose), ("H895", .tooClose), ("H9360", .invalidDate),
    ("LOCATION", .unknownLocation)]

theorem codeStatus_iff {code : String} {status : TripsStatus} :
    Error.codeStatus? code = some status ↔ (code, status) ∈ listedCodes := by
  constructor
  · intro h
    rw [Error.codeStatus?.eq_def] at h
    split at h <;> cases h <;> decide
  · intro h
    have hall : ∀ entry ∈ listedCodes, Error.codeStatus? entry.1 = some entry.2 := by decide
    exact hall _ h

/-- A body that does not begin like data, and is recognised as a page. -/
def Triaged (c : Client) (address : Url) (body : String) : Prop :=
  (∀ first, body.toList.find? (!Text.isBlank ·) = some first → first ≠ '{' ∧ first ≠ '[') ∧
    c.triage.classify body address ≠ .normal

theorem looksLikeData_iff {body : String} : looksLikeData body = true ↔
    ∃ first, body.toList.find? (!Text.isBlank ·) = some first ∧ (first = '{' ∨ first = '[') := by
  rw [List.find?_not_eq_head?_dropWhile, ← Text.stripStart, looksLikeData.eq_def]
  split
  · rename_i rest hbody
    rw [hbody]
    simp
  · rename_i rest hbody
    rw [hbody]
    simp
  · rename_i hbrace hbracket
    cases hbody : Text.stripStart body.toList with
    | nil => simp
    | cons first rest =>
      simp only [Bool.false_eq_true, List.head?_cons, Option.some.injEq, false_iff]
      rintro ⟨_, rfl, rfl | rfl⟩
      · exact hbrace rest hbody
      · exact hbracket rest hbody

/-- A text from which a record can be read is data. -/
theorem looksLikeData_of_ofText? {body : String} {j : Json} {names : List String}
    {r : Json.Record} (htext : Json.ofText? body = some j) (hr : j.record? names = some r) :
    looksLikeData body = true :=
  looksLikeData_iff.mpr (Json.opens_of_ofText? htext hr)

theorem triaged_iff {c : Client} {address : Url} {body : String} :
    Triaged c address body ↔ pageClass c.triage address body ≠ .normal := by
  rw [Triaged, pageClass]
  by_cases hdata : looksLikeData body = true
  · obtain ⟨first, hfirst, hopens⟩ := looksLikeData_iff.mp hdata
    rw [if_pos hdata]
    constructor
    · rintro ⟨hother, -⟩
      have hne := hother first hfirst
      tauto
    · exact fun h => absurd rfl h
  · rw [if_neg hdata]
    refine and_iff_right fun first hfirst => ?_
    rw [looksLikeData_iff] at hdata
    constructor <;> rintro rfl <;> exact hdata ⟨_, hfirst, by simp⟩

theorem untriaged_iff {c : Client} {address : Url} {body : String} :
    ¬Triaged c address body ↔ pageClass c.triage address body = .normal := by
  rw [triaged_iff, not_not]

/-- A body that reports an error: it says so, or it has a code of either kind. -/
def IsReport (body : String) (e : ErrorBody) : Prop :=
  (Json.ofText? body).bind ErrorBody.ofJson? = some e ∧
    (e.isHafasError.isSome ∨ e.code.isSome ∨ e.hafasCode.isSome)

theorem errorBody_iff {body : String} {e : ErrorBody} :
    errorBody? body = some e ↔ IsReport body e := by
  rw [errorBody?, IsReport, Option.bind_eq_bind, Option.bind_eq_some_iff]
  constructor
  · rintro ⟨e', hread, he⟩
    split at he
    · rename_i hsome
      cases he
      exact ⟨hread, by simpa [or_assoc] using hsome⟩
    · cases he
  · rintro ⟨hread, hsome⟩
    exact ⟨e, hread, if_pos (by simpa [or_assoc] using hsome)⟩

theorem errorBody_eq_none {body : String} (h : ∀ e, ¬IsReport body e) : errorBody? body = none := by
  rw [Option.eq_none_iff_forall_ne_some]
  exact fun e he => h e (errorBody_iff.mp he)

/-- No status is listed for the code of an error, or it has none. -/
def Unlisted (e : ErrorBody) : Prop :=
  ∀ code status, e.hafasCode = some code → (code, status) ∉ listedCodes

/-- What was asked for is not known: the error says so, or, if it does not say what it is, the HTTP
status does. -/
def SaysMissing (http : Nat) (e : ErrorBody) : Prop :=
  e.code = some "NOT_FOUND" ∨ e.code = none ∧ http = 404

instance (http : Nat) (e : ErrorBody) : Decidable (SaysMissing http e) :=
  inferInstanceAs (Decidable (_ ∨ _ ∧ _))

variable {c : Client} {answer : Answer} {address : Url} {body : String} {http : Nat}
  {e : ErrorBody} {found : JourneysAnswer} {code : String} {status : TripsStatus}

/-- A success, with good data. -/
inductive Delivers (c : Client) : Answer → JourneysAnswer → Prop
  | data {http : Nat} {retryAfter : Option String} {address : Url} {body : String}
    {found : JourneysAnswer} (success : isSuccess http = true) (untriaged : ¬Triaged c address body)
    (read : (Json.ofText? body).bind JourneysAnswer.ofJson? = some found) :
    Delivers c (.response http retryAfter address (some body)) found

/-- No success, nor a limit on the rate, with a body that is no page. -/
inductive Refuses (c : Client) : Answer → Nat → String → Prop
  | body {http : Nat} {retryAfter : Option String} {address : Url} {body : String}
    (failure : isSuccess http = false) (unlimited : http ≠ 429)
    (untriaged : ¬Triaged c address body) :
    Refuses c (.response http retryAfter address (some body)) http body

theorem Refuses.unique {http' : Nat} {body' : String} (h : Refuses c answer http body)
    (h' : Refuses c answer http' body') : http' = http ∧ body' = body := by
  cases h
  cases h'
  exact ⟨rfl, rfl⟩

/-- The status that an answer to a request for journeys stands for. -/
inductive StandsFor (c : Client) : Answer → TripsStatus → Prop
  | trips {answer : Answer} {found : JourneysAnswer} (delivered : Delivers c answer found)
    (some_trip : ∃ journey ∈ found.journeys, (tripOf? journey).isSome) : StandsFor c answer .ok
  | empty {answer : Answer} {found : JourneysAnswer} (delivered : Delivers c answer found)
    (no_trip : ∀ journey ∈ found.journeys, tripOf? journey = none) : StandsFor c answer .noTrips
  | listed {answer : Answer} {http : Nat} {body : String} {e : ErrorBody} {code : String}
    {status : TripsStatus} (refused : Refuses c answer http body) (reported : IsReport body e)
    (coded : e.hafasCode = some code) (entry : (code, status) ∈ listedCodes) :
    StandsFor c answer status
  | missing {answer : Answer} {http : Nat} {body : String} {e : ErrorBody}
    (refused : Refuses c answer http body) (reported : IsReport body e) (unlisted : Unlisted e)
    (gone : SaysMissing http e) : StandsFor c answer .noTrips
  | failing {answer : Answer} {http : Nat} {body : String} {e : ErrorBody}
    (refused : Refuses c answer http body) (reported : IsReport body e) (unlisted : Unlisted e)
    (there : ¬SaysMissing http e) : StandsFor c answer .serviceDown
  | absent {answer : Answer} {body : String} (refused : Refuses c answer 404 body)
    (unreported : ∀ e, ¬IsReport body e) : StandsFor c answer .noTrips
  | silent {answer : Answer} {http : Nat} {body : String} (refused : Refuses c answer http body)
    (present : http ≠ 404) (unreported : ∀ e, ¬IsReport body e) : StandsFor c answer .serviceDown
  | troubled {answer : Answer} (trouble : Troubled c JourneysAnswer.ofJson? answer) :
    StandsFor c answer .serviceDown

/-! ### The status of an error -/

theorem failureStatus_listed (hreport : IsReport body e) (hcode : e.hafasCode = some code)
    (hentry : (code, status) ∈ listedCodes) : failureStatus (backendError http body) = status := by
  have hstatus := codeStatus_iff.mpr hentry
  rw [backendError, errorBody_iff.mpr hreport, failureStatus]
  simp [Error.tripsStatus?, hcode, hstatus]

theorem Unlisted.codeStatus (h : Unlisted e) : e.hafasCode.bind Error.codeStatus? = none := by
  cases hcode : e.hafasCode with
  | none => rfl
  | some code =>
    cases hstatus : Error.codeStatus? code with
    | none => exact hstatus
    | some status => exact absurd (codeStatus_iff.mp hstatus) (h code status hcode)

theorem code_eq_notFound : e.code.getD (statusCode http) = "NOT_FOUND" ↔ SaysMissing http e := by
  rw [SaysMissing]
  cases e.code with
  | none =>
    rw [Option.getD_none, statusCode]
    split <;> simp_all
  | some code => simp

theorem failureStatus_unlisted (hreport : IsReport body e) (hunlisted : Unlisted e) :
    failureStatus (backendError http body) =
      if SaysMissing http e then .noTrips else .serviceDown := by
  have hlocation : e.hafasCode ≠ some "LOCATION" := fun hcode =>
    hunlisted _ _ hcode (by decide : ("LOCATION", TripsStatus.unknownLocation) ∈ listedCodes)
  rw [backendError, errorBody_iff.mpr hreport, failureStatus]
  simp only [Error.tripsStatus?, hunlisted.codeStatus, Error.isNotFound, hlocation, decide_false,
    Bool.or_false, decide_eq_true_eq, code_eq_notFound]

theorem failureStatus_unreported (h : ∀ e, ¬IsReport body e) :
    failureStatus (backendError http body) = if http = 404 then .noTrips else .serviceDown := by
  rw [backendError, errorBody_eq_none h]
  dsimp only
  split <;> rfl

/-! ### The status of a page -/

theorem tripsOf_eq_nil {journeys : List Json} :
    tripsOf journeys = [] ↔ ∀ journey ∈ journeys, tripOf? journey = none := by
  rw [tripsOf, distinct_eq_nil, List.filterMap_eq_nil_iff]

variable {σ : Type} {backend : Backend σ} {q : TripsQuery} {origin destination : Location}
  {via : Option Location} {params : Params} {url : Url} {s s' t : σ}

theorem pageIn_of_delivers (h : Delivers c answer found) :
    ∃ address, c.pageIn answer = .ok (c.pageOf address found) := by
  cases h with
  | @data http retryAfter address body found success untriaged read =>
    have usual := untriaged_iff.mp untriaged
    have htaken := reading_taken c JourneysAnswer.ofJson? (.response http retryAfter address body)
    rw [pageIn]
    generalize c.reading JourneysAnswer.ofJson? _ = outcome at htaken ⊢
    cases htaken with
    | limited => cases success
    | page unlimited triaged strange => exact absurd usual (triaged ▸ strange)
    | refused unlimited usual bad => simp [success] at bad
    | unreadable usual good unread => simp [read] at unread
    | good usual good fits =>
      rw [read] at fits
      cases fits
      exact ⟨address, rfl⟩

theorem reading_of_refuses {α : Type} (read : Json → Option α) (h : Refuses c answer http body) :
    c.reading read answer = .error (backendError http body) := by
  cases h with
  | @body http retryAfter address body failure unlimited untriaged =>
    have usual := untriaged_iff.mp untriaged
    have htaken := reading_taken c read (.response http retryAfter address body)
    generalize c.reading read _ = outcome at htaken ⊢
    cases htaken with
    | limited => exact absurd rfl unlimited
    | page _ triaged strange => exact absurd usual (triaged ▸ strange)
    | refused => rfl
    | unreadable usual good | good usual good => simp [failure] at good

theorem pageIn_of_refuses (h : Refuses c answer http body) :
    c.pageIn answer = .error (backendError http body) := by
  rw [pageIn, reading_of_refuses _ h]
  rfl

theorem presented_of_delivers (h : Delivers c answer found) (params : Params) (origin : Location)
    (via : Option Location) (destination : Location) :
    (c.presented params origin via destination (c.pageIn answer)).status =
      if tripsOf found.journeys = [] then .noTrips else .ok := by
  obtain ⟨address, hpage⟩ := pageIn_of_delivers h
  rw [hpage, presented, opening]
  change TripsResult.status (Provider.stamp (if (tripsOf found.journeys).isEmpty then _ else _)) = _
  simp only [List.isEmpty_iff]
  split <;> rfl

/-- The result of a search has the status that the answer stands for. -/
theorem presented_of_standsFor (h : StandsFor c answer status) (params : Params)
    (origin : Location) (via : Option Location) (destination : Location) :
    (c.presented params origin via destination (c.pageIn answer)).status = status := by
  cases h with
  | trips delivered some_trip =>
    rw [presented_of_delivers delivered, if_neg]
    rw [tripsOf_eq_nil]
    obtain ⟨journey, hjourney, htrip⟩ := some_trip
    intro hnone
    rw [hnone journey hjourney] at htrip
    cases htrip
  | empty delivered no_trip =>
    rw [presented_of_delivers delivered, if_pos (tripsOf_eq_nil.mpr no_trip)]
  | listed refused reported coded entry =>
    rw [pageIn_of_refuses refused]
    exact failureStatus_listed reported coded entry
  | missing refused reported unlisted gone =>
    rw [pageIn_of_refuses refused]
    exact (failureStatus_unlisted reported unlisted).trans (if_pos gone)
  | failing refused reported unlisted there =>
    rw [pageIn_of_refuses refused]
    exact (failureStatus_unlisted reported unlisted).trans (if_neg there)
  | absent refused unreported =>
    rw [pageIn_of_refuses refused]
    exact failureStatus_unreported unreported
  | silent refused present unreported =>
    rw [pageIn_of_refuses refused]
    exact (failureStatus_unreported unreported).trans (if_neg present)
  | troubled trouble =>
    obtain ⟨e, hpage, hstatus⟩ := trouble.status_page
    rw [hpage]
    exact hstatus

theorem standsFor_of_delivers (h : Delivers c answer found) :
    ∃ status, StandsFor c answer status := by
  by_cases htrip : ∃ journey ∈ found.journeys, (tripOf? journey).isSome
  · exact ⟨_, .trips h htrip⟩
  · refine ⟨_, .empty h fun journey hjourney => ?_⟩
    by_contra hsome
    exact htrip ⟨journey, hjourney, Option.isSome_iff_ne_none.mpr hsome⟩

theorem standsFor_of_refuses (h : Refuses c answer http body) :
    ∃ status, StandsFor c answer status := by
  by_cases hreport : ∃ e, IsReport body e
  · obtain ⟨e, hreport⟩ := hreport
    by_cases hlisted : Unlisted e
    · by_cases hgone : SaysMissing http e
      · exact ⟨_, .missing h hreport hlisted hgone⟩
      · exact ⟨_, .failing h hreport hlisted hgone⟩
    · rw [Unlisted] at hlisted
      push Not at hlisted
      obtain ⟨code, status, hcode, hentry⟩ := hlisted
      exact ⟨status, .listed h hreport hcode hentry⟩
  · rw [not_exists] at hreport
    by_cases hhttp : http = 404
    · subst hhttp
      exact ⟨_, .absent h hreport⟩
    · exact ⟨_, .silent h hhttp hreport⟩

/-- Every answer stands for some status. -/
theorem exists_standsFor (c : Client) (answer : Answer) : ∃ status, StandsFor c answer status := by
  have htaken := reading_taken c JourneysAnswer.ofJson? answer
  generalize c.reading JourneysAnswer.ofJson? answer = outcome at htaken
  cases htaken with
  | timedOut => exact ⟨_, .troubled .timedOut⟩
  | unreachable message => exact ⟨_, .troubled .unreachable⟩
  | limited => exact ⟨_, .troubled .limited⟩
  | brokenOff => exact ⟨_, .troubled .brokenOff⟩
  | page unlimited triaged strange => exact ⟨_, .troubled (.page (triaged ▸ strange))⟩
  | unreadable usual good unread => exact ⟨_, .troubled (.unreadable good unread)⟩
  | refused unlimited usual bad =>
    exact standsFor_of_refuses (.body bad unlimited (untriaged_iff.mpr usual))
  | good usual good fits =>
    exact standsFor_of_delivers (.data good (untriaged_iff.mpr usual) fits)

theorem presented_status_iff (c : Client) (answer : Answer) (params : Params) (origin : Location)
    (via : Option Location) (destination : Location) (status : TripsStatus) :
    (c.presented params origin via destination (c.pageIn answer)).status = status ↔
      StandsFor c answer status := by
  constructor
  · rintro rfl
    obtain ⟨status, hstands⟩ := exists_standsFor c answer
    rwa [presented_of_standsFor hstands]
  · exact fun hstands => presented_of_standsFor hstands params origin via destination

/-! ### The HTTP status -/

/-- All that is told apart about the HTTP status of an answer. -/
structure SameClass (http http' : Nat) : Prop where
  success : isSuccess http = isSuccess http'
  limited : http = 429 ↔ http' = 429
  absent : http = 404 ↔ http' = 404

variable {http' : Nat} {retryAfter retryAfter' text : Option String}

theorem Delivers.alike (h : Delivers c (.response http retryAfter address text) found)
    (same : SameClass http http') :
    Delivers c (.response http' retryAfter' address text) found := by
  cases h with
  | data success untriaged read => exact .data (same.success ▸ success) untriaged read

theorem Refuses.alike {known : Nat}
    (h : Refuses c (.response http retryAfter address text) known body)
    (same : SameClass http http') :
    known = http ∧ Refuses c (.response http' retryAfter' address text) http' body := by
  cases h with
  | body failure unlimited untriaged =>
    exact ⟨rfl, .body (same.success ▸ failure) (mt same.limited.mpr unlimited) untriaged⟩

theorem Troubled.alike {α : Type} {read : Json → Option α}
    (h : Troubled c read (.response http retryAfter address text)) (same : SameClass http http') :
    Troubled c read (.response http' retryAfter' address text) := by
  cases h with
  | limited =>
    obtain rfl := same.limited.mp rfl
    exact .limited
  | brokenOff => exact .brokenOff
  | page strange => exact .page strange
  | unreadable good unread => exact .unreadable (same.success ▸ good) unread

theorem saysMissing_congr (same : SameClass http http') (e : ErrorBody) :
    SaysMissing http e ↔ SaysMissing http' e := by
  rw [SaysMissing, SaysMissing, same.absent]

/-- HTTP statuses of one class are not told apart. -/
theorem StandsFor.alike (h : StandsFor c (.response http retryAfter address text) status)
    (same : SameClass http http') :
    StandsFor c (.response http' retryAfter' address text) status := by
  cases h with
  | trips delivered some_trip => exact .trips (delivered.alike same) some_trip
  | empty delivered no_trip => exact .empty (delivered.alike same) no_trip
  | listed refused reported coded entry => exact .listed (refused.alike same).2 reported coded entry
  | missing refused reported unlisted gone =>
    obtain ⟨rfl, refused⟩ := refused.alike same
    exact .missing refused reported unlisted ((saysMissing_congr same _).mp gone)
  | failing refused reported unlisted there =>
    obtain ⟨rfl, refused⟩ := refused.alike same
    exact .failing refused reported unlisted (mt (saysMissing_congr same _).mpr there)
  | absent refused unreported =>
    obtain ⟨rfl, refused⟩ := refused.alike same
    obtain rfl := same.absent.mp rfl
    exact .absent refused unreported
  | silent refused present unreported =>
    obtain ⟨rfl, refused⟩ := refused.alike same
    exact .silent refused (mt same.absent.mpr present) unreported
  | troubled trouble => exact .troubled (trouble.alike same)

/-- A search whose places are found and whose parameters are checked has the one status that the
answer to its request for journeys stands for. The HTTP status of an answer matters only as far as
its class, and for a page it does not matter at all. -/
theorem status_told (h : (c.provider backend).Permits q)
    (places : c.resolveEndpoints backend q s = (.ok (.resolved origin via destination), t))
    (checked : journeyParams c.config q origin via destination = .ok params)
    (place : c.endpoint ["journeys"] = .ok url)
    (answered : backend (url.withParams (params ++ [timeParam q])) t = (answer, s')) :
    (∃ r, (c.provider backend).queryTrips q s = (.ok r, s') ∧
      ∀ status, r.status = status ↔ StandsFor c answer status) ∧
    (∀ http http' retryAfter retryAfter' address text status, SameClass http http' →
      StandsFor c (.response http retryAfter address text) status →
        StandsFor c (.response http' retryAfter' address text) status) ∧
    ∀ http retryAfter address body, Triaged c address body →
      StandsFor c (.response http retryAfter address (some body)) .serviceDown := by
  have hquery := queryTrips_resolved h places checked place answered
  have hstatus := presented_status_iff c answer params origin via destination
  refine ⟨⟨_, hquery, hstatus⟩, ?_, ?_⟩
  · intro http http' retryAfter retryAfter' address text status same hstands
    exact hstands.alike same
  · intro http retryAfter address body triaged
    exact .troubled (.page (triaged_iff.mp triaged))

/-- Tells that the date is out of range. -/
def datelessBody : String := (Json.obj [("hafasCode", .str "H9360")]).compact

def datelessBackend : Backend Unit := fun url =>
  return Answer.response 500 none url (some datelessBody)

theorem standsFor_dateless (c : Client) (url : Url) :
    StandsFor c (.response 500 none url (some datelessBody)) .invalidDate := by
  have hplain : (Json.obj [("hafasCode", .str "H9360")]).isPlain 0 = true := by decide +kernel
  have hpage : pageClass c.triage url datelessBody = .normal := by
    rw [pageClass, datelessBody, looksLikeData_compact]
    rfl
  have hreport : IsReport datelessBody ⟨none, none, some "H9360", none, none⟩ := by
    rw [IsReport, datelessBody, Json.ofText_compact hplain]
    exact ⟨rfl, .inr (.inr rfl)⟩
  exact .listed (.body rfl (by decide) (untriaged_iff.mpr hpage)) hreport rfl (by decide)

theorem triaged_expired (url : Url) : Triaged walkClient url "Session expired" := by
  have hdata : looksLikeData "Session expired" = false := by decide +kernel
  have htarget : (Triage.metaTarget? "Session expired".toList <|>
      Triage.scriptTarget? "Session expired".toList) = none := by decide +kernel
  have hexpired : walkClient.triage.isExpired "Session expired".toList = true := by decide +kernel
  have hclass : walkClient.triage.classify "Session expired" url = .sessionExpired := by
    rw [Triage.classify, Triage.redirect?, htarget]
    exact if_pos hexpired
  rw [triaged_iff, pageClass, hdata, hclass]
  decide

theorem dateless_status_told :
    (∃ r, (walkClient.provider datelessBackend).queryTrips .walk () = (.ok r, ()) ∧
      r.status = .invalidDate) ∧
    (∀ url, StandsFor walkClient (.response 503 none url (some datelessBody)) .invalidDate) ∧
    ∀ url, StandsFor walkClient (.response 404 none url (some "Session expired")) .serviceDown := by
  obtain ⟨url, hurl⟩ : ∃ url, walkClient.endpoint ["journeys"] = .ok url := ⟨_, rfl⟩
  obtain ⟨params, hparams⟩ : ∃ params, journeyParams walkClient.config .walk (.station "1") none
    (.station "2") = .ok params := ⟨_, rfl⟩
  have hpermit : (walkClient.provider datelessBackend).Permits .walk := ⟨rfl, nofun, nofun⟩
  obtain ⟨⟨r, hquery, hstatus⟩, hclass, hpage⟩ := status_told hpermit rfl hparams hurl rfl
  have hsame : SameClass 500 503 := ⟨rfl, by decide, by decide⟩
  exact ⟨⟨r, hquery, (hstatus _).mpr (standsFor_dateless walkClient _)⟩,
    fun url => hclass _ _ _ _ _ _ _ hsame (standsFor_dateless walkClient url),
    fun url => hpage _ _ _ _ (triaged_expired url)⟩

end Transit.Hafas.Client
