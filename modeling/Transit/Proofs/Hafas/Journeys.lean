import Transit.Proofs.Hafas.Resolution
import Transit.Proofs.Hafas.Token
import Transit.Proofs.Provider

/-! # Journey searches

A session is opened by a page with trips. A continuation either fails with its page, which leaves
the session where it is, or passes the page on.
-/
namespace Transit.Hafas.Client

variable {σ : Type} {c : Client} {backend : Backend σ} {answer : Url → Answer} {q : TripsQuery}
  {s s' : σ}

/-- A request for journeys is one request, whose answer is read as a page. -/
theorem journeys_eq (params : Params) (s : σ) :
    c.journeys backend params s =
      ((c.fetchAs backend JourneysAnswer.ofJson? ["journeys"] params s).1.map fun found =>
          c.pageOf found.1 found.2,
        (c.fetchAs backend JourneysAnswer.ofJson? ["journeys"] params s).2) := by
  rcases hfetch : c.fetchAs backend JourneysAnswer.ofJson? ["journeys"] params s with ⟨found, t⟩
  cases found with
  | error e =>
    rw [journeys, Fetched.bind_error hfetch]
    rfl
  | ok found =>
    rw [journeys, Fetched.bind_ok hfetch]
    rfl

/-- The page that a client reads from an answer. -/
def pageIn (c : Client) (answer : Answer) : Except Error JourneyPage :=
  (c.reading JourneysAnswer.ofJson? answer).map fun found => c.pageOf found.1 found.2

/-- The journeys that are answered to some parameters. -/
def pageFor (c : Client) (answer : Url → Answer) (params : Params) : Except Error JourneyPage :=
  (c.answerTo answer JourneysAnswer.ofJson? ["journeys"] params).map fun found =>
    c.pageOf found.1 found.2

theorem journeys_sent {url : Url} (h : c.endpoint ["journeys"] = .ok url) (params : Params)
    (s : σ) :
    c.journeys backend params s =
      (c.pageIn (backend (url.withParams params) s).1, (backend (url.withParams params) s).2) := by
  rw [journeys_eq, fetchAs_sent h, pageIn]

/-- A page was asked for at the place for journeys. -/
theorem journeys_eq_ok {params : Params} {page : JourneyPage}
    (h : c.journeys backend params s = (.ok page, s')) :
    ∃ url, c.endpoint ["journeys"] = .ok url ∧
      c.pageIn (backend (url.withParams params) s).1 = .ok page := by
  cases hurl : c.endpoint ["journeys"] with
  | error e =>
    rw [journeys_eq, fetchAs_misplaced hurl] at h
    cases h
  | ok url =>
    rw [journeys_sent hurl] at h
    exact ⟨url, rfl, (Prod.mk.inj h).1⟩

theorem journeys_answersBy (h : backend.AnswersBy answer) (params : Params) (s : σ) :
    (c.journeys backend params s).1 = c.pageFor answer params := by
  rw [journeys_eq, pageFor, ← fetchAs_answersBy h]

/-- The statuses that a failed request can stand for. -/
def failures : List TripsStatus :=
  [.noTrips, .unknownLocation, .tooClose, .invalidDate, .serviceDown]

theorem codeStatus_mem {code : String} {status : TripsStatus}
    (h : Error.codeStatus? code = some status) : status ∈ failures := by
  rw [Error.codeStatus?.eq_def] at h
  split at h <;> cases h <;> decide

theorem failureStatus_mem (e : Error) : failureStatus e ∈ failures := by
  rw [failureStatus]
  split
  · rename_i status h
    cases e with
    | backend _ hafasCode _ =>
      obtain ⟨code, -, hcode⟩ := Option.bind_eq_some_iff.mp h
      exact codeStatus_mem hcode
    | _ => cases h
  · split <;> decide

theorem failureStatus_ne_ok (e : Error) : failureStatus e ≠ .ok :=
  ne_of_mem_of_not_mem (failureStatus_mem e) (by decide)

/-- What a continuation makes of the answer to its request. -/
def turned (c : Client) (token : JourneyToken) (d : Direction) :
    Except Error JourneyPage → TripsResult
  | .error e => c.failed e
  | .ok page => found page (token.advance d page.earlierRef page.laterRef)

/-- A token with a reference is continued by one request for journeys. -/
theorem requestMoreTrips_referred {token : JourneyToken} {context : TripsContext} {d : Direction}
    {reference : String} (hcontext : JourneyToken.ofContext context = .ok token)
    (h : token.reference d = some reference) (s : σ) :
    c.requestMoreTrips backend context d s =
      (.ok (c.turned token d
          (c.journeys backend (token.params ++ [referenceParam d reference]) s).1),
        (c.journeys backend (token.params ++ [referenceParam d reference]) s).2) := by
  rw [requestMoreTrips, hcontext]
  simp only [continueJourneys, h]
  rcases hj : c.journeys backend (token.params ++ [referenceParam d reference]) s with ⟨page, t⟩
  simp only [bind, StateT.bind, hj]
  cases page <;> rfl

theorem requestMoreTrips_some {token : JourneyToken} {context : TripsContext} {d : Direction}
    {reference : String} (hcontext : context.token = token.toContext.token)
    (h : token.reference d = some reference) (s : σ) :
    (c.requestMoreTrips backend context d s).1 =
      match (c.journeys backend (token.params ++ [referenceParam d reference]) s).1 with
      | .error e => .ok (c.failed e)
      | .ok page => .ok (found page (token.advance d page.earlierRef page.laterRef)) := by
  rw [requestMoreTrips_referred (JourneyToken.ofContext_of_token hcontext) h]
  cases (c.journeys backend (token.params ++ [referenceParam d reference]) s).1 <;> rfl

theorem status_opening {page : JourneyPage} (h : page.trips ≠ []) (params : Params)
    (origin : Location) (via : Option Location) (destination : Location) :
    (opening params origin via destination page).status = .ok := by
  have hempty : ¬page.trips.isEmpty := by rwa [List.isEmpty_iff]
  rw [opening, if_neg hempty]
  rfl

theorem opening_of_trips {page : JourneyPage} (h : page.trips ≠ []) (params : Params)
    (origin : Location) (via : Option Location) (destination : Location) :
    (opening params origin via destination page).trips = page.trips ∧
      (opening params origin via destination page).context =
        some (JourneyToken.mk params page.earlierRef page.laterRef).toContext := by
  have hempty : ¬page.trips.isEmpty := by rwa [List.isEmpty_iff]
  rw [opening, if_neg hempty]
  exact ⟨rfl, rfl⟩

/-- With its places found and its parameters checked, a search is one request for journeys. -/
theorem requestTrips_resolved {origin destination : Location} {via : Option Location}
    {params : Params} {t : σ}
    (places : c.resolveEndpoints backend q s = (.ok (.resolved origin via destination), t))
    (checked : journeyParams c.config q origin via destination = .ok params) :
    c.requestTrips backend q s =
      (.ok (match (c.journeys backend (params ++ [timeParam q]) t).1 with
        | .error e => c.failed e
        | .ok page => opening params origin via destination page),
        (c.journeys backend (params ++ [timeParam q]) t).2) := by
  rw [requestTrips]
  simp only [bind, StateT.bind, places]
  rw [searchJourneys, checked]
  rcases hj : c.journeys backend (params ++ [timeParam q]) t with ⟨page, s'⟩
  simp only [bind, StateT.bind, hj]
  cases page <;> rfl

/-- All that a first search can come to. -/
inductive Searched (c : Client) (backend : Backend σ) (q : TripsQuery) (s : σ) :
    Outcome TripsResult × σ → Prop
  | unresolved {e : Error} {t : σ} (places : c.resolveEndpoints backend q s = (.error e, t)) :
    Searched c backend q s (.ok (.serviceDown (c.header none)), t)
  | unknown {status : TripsStatus} {t : σ}
    (places : c.resolveEndpoints backend q s = (.ok (.unknown status), t)) :
    Searched c backend q s (.ok (.bare (c.header none) status), t)
  | ambiguous {origin via destination : List Location} {t : σ}
    (places : c.resolveEndpoints backend q s = (.ok (.ambiguous origin via destination), t)) :
    Searched c backend q s (.ok (.ambiguous (c.header none) origin via destination), t)
  | rejected {origin destination : Location} {via : Option Location} {e : ProviderError} {t : σ}
    (places : c.resolveEndpoints backend q s = (.ok (.resolved origin via destination), t))
    (checked : journeyParams c.config q origin via destination = .error e) :
    Searched c backend q s (.error e, t)
  | failed {origin destination : Location} {via : Option Location} {params : Params} {e : Error}
    {t s' : σ}
    (places : c.resolveEndpoints backend q s = (.ok (.resolved origin via destination), t))
    (checked : journeyParams c.config q origin via destination = .ok params)
    (request : c.journeys backend (params ++ [timeParam q]) t = (.error e, s')) :
    Searched c backend q s (.ok (c.failed e), s')
  | answered {origin destination : Location} {via : Option Location} {params : Params}
    {page : JourneyPage} {t s' : σ}
    (places : c.resolveEndpoints backend q s = (.ok (.resolved origin via destination), t))
    (checked : journeyParams c.config q origin via destination = .ok params)
    (request : c.journeys backend (params ++ [timeParam q]) t = (.ok page, s')) :
    Searched c backend q s (.ok (opening params origin via destination page), s')

theorem requestTrips_searched (c : Client) (backend : Backend σ) (q : TripsQuery) (s : σ) :
    Searched c backend q s (c.requestTrips backend q s) := by
  rcases hplaces : c.resolveEndpoints backend q s with ⟨endpoints, t⟩
  have hrequest : c.requestTrips backend q s = (match endpoints with
      | .error _ => (.ok (.serviceDown (c.header none)), t)
      | .ok (.unknown status) => (.ok (.bare (c.header none) status), t)
      | .ok (.ambiguous origin via destination) =>
        (.ok (.ambiguous (c.header none) origin via destination), t)
      | .ok (.resolved origin via destination) =>
        c.searchJourneys backend q origin via destination t) := by
    rw [requestTrips]
    simp only [bind, StateT.bind, hplaces]
    rcases endpoints with e | (⟨origin, via, destination⟩ | status | ⟨origin, via, destination⟩) <;>
      rfl
  rw [hrequest]
  rcases endpoints with e | (⟨origin, via, destination⟩ | status | ⟨origin, via, destination⟩)
  · exact .unresolved hplaces
  · change Searched c backend q s (c.searchJourneys backend q origin via destination t)
    rw [searchJourneys]
    cases hparams : journeyParams c.config q origin via destination with
    | error e => exact .rejected hplaces hparams
    | ok params =>
      rcases hj : c.journeys backend (params ++ [timeParam q]) t with ⟨page, s'⟩
      simp only [bind, StateT.bind, hj]
      cases page with
      | error e => exact .failed hplaces hparams hj
      | ok page => exact .answered hplaces hparams hj
  · exact .unknown hplaces
  · exact .ambiguous hplaces

/-- All that a continuation can come to. -/
inductive Continued (c : Client) (backend : Backend σ) (context : TripsContext) (d : Direction)
    (s : σ) : Outcome TripsResult × σ → Prop
  | unreadable {e : ProviderError} (decoded : JourneyToken.ofContext context = .error e) :
    Continued c backend context d s (.error e, s)
  | ended {token : JourneyToken} (decoded : JourneyToken.ofContext context = .ok token)
    (referred : token.reference d = none) :
    Continued c backend context d s
      (.error (.precondition ("context has no " ++ d.name ++ " reference")), s)
  | sent {token : JourneyToken} {reference : String} {page : Except Error JourneyPage} {s' : σ}
    (decoded : JourneyToken.ofContext context = .ok token)
    (referred : token.reference d = some reference)
    (request : c.journeys backend (token.params ++ [referenceParam d reference]) s = (page, s')) :
    Continued c backend context d s (.ok (c.turned token d page), s')

theorem requestMoreTrips_continued (c : Client) (backend : Backend σ) (context : TripsContext)
    (d : Direction) (s : σ) :
    Continued c backend context d s (c.requestMoreTrips backend context d s) := by
  cases htoken : JourneyToken.ofContext context with
  | error e =>
    rw [requestMoreTrips, htoken]
    exact .unreadable htoken
  | ok token =>
    cases href : token.reference d with
    | none =>
      rw [requestMoreTrips, htoken]
      simp only [continueJourneys, href]
      exact .ended htoken href
    | some reference =>
      rw [requestMoreTrips_referred htoken href]
      exact .sent htoken href rfl

/-- A good first result is a page with trips, for places that were all found. -/
theorem requestTrips_good {r : TripsResult} (h : c.requestTrips backend q s = (.ok r, s'))
    (hok : r.status = .ok) :
    ∃ origin via destination params page t,
      c.resolveEndpoints backend q s = (.ok (.resolved origin via destination), t) ∧
      journeyParams c.config q origin via destination = .ok params ∧
      c.journeys backend (params ++ [timeParam q]) t = (.ok page, s') ∧
      r = opening params origin via destination page ∧ page.trips ≠ [] := by
  have hsearch := requestTrips_searched c backend q s
  rw [h] at hsearch
  cases hsearch with
  | unresolved places => cases hok
  | unknown places => exact absurd hok (resolveEndpoints_unknown places).1
  | ambiguous places => cases hok
  | failed places checked request => exact absurd hok (failureStatus_ne_ok _)
  | answered places checked request =>
    refine ⟨_, _, _, _, _, _, places, checked, request, rfl, fun hempty => ?_⟩
    rw [opening, hempty] at hok
    cases hok

/-- A page with one walk and a reference at each end. -/
def walkPage : Json :=
  .obj [("journeys", .arr [.obj [("legs", .arr [.obj [
      ("origin", .obj [("type", .str "stop"), ("id", .str "1")]),
      ("destination", .obj [("type", .str "stop"), ("id", .str "2")]),
      ("departure", .str "1970-01-01T00:00:00Z"), ("arrival", .str "1970-01-01T00:00:00Z"),
      ("walking", .bool true)]])]]),
    ("earlierRef", .str "before"), ("laterRef", .str "after")]

def walkAnswer (url : Url) : Answer := .response 200 none url (some walkPage.compact)

def walkClient : Client where
  config := .forTesting
  baseUrl := ⟨"http", "", "", some (.domain "localhost"), none, false, .segments [], none, none⟩
  triage := .usual

/-- The page is the same from any address, for any client. -/
theorem pageIn_walkAnswer (c : Client) (url : Url) :
    ∃ page, c.pageIn (walkAnswer url) = .ok page ∧ page.trips ≠ [] ∧ page.laterRef.isSome := by
  have hplain : walkPage.isPlain 0 = true := by decide +kernel
  have hparts : (JourneysAnswer.ofJson? walkPage).map (fun answer =>
      ((tripsOf answer.journeys).isEmpty, answer.laterRef.isSome)) = some (false, true) := by
    decide +kernel
  obtain ⟨answer, hanswer, hparts⟩ := Option.map_eq_some_iff.mp hparts
  obtain ⟨htrips, hlater⟩ := Prod.mk.inj hparts
  refine ⟨c.pageOf url answer, ?_, ?_, hlater⟩
  · rw [pageIn, walkAnswer, walkPage, reading_compact _ _ hplain hanswer]
    rfl
  · change tripsOf answer.journeys ≠ []
    intro hempty
    rw [hempty] at htrips
    cases htrips

theorem walkAnswer_page (url : Url) :
    ∃ page, walkClient.pageIn (walkAnswer url) = .ok page ∧ page.trips ≠ [] ∧
      page.laterRef.isSome := pageIn_walkAnswer walkClient url

def walkBackend : Backend Unit := fun url => return walkAnswer url

def walkProvider : Provider Unit := walkClient.provider walkBackend

end Transit.Hafas.Client
