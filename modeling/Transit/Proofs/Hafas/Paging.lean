import Mathlib.Logic.Relation
import Transit.Proofs.Hafas.Ends
import Transit.Proofs.Hafas.Journeys
import Transit.Proofs.Hafas.Lookup
import Transit.Proofs.Hafas.Search
import Transit.Proofs.Permission

/-! # What the continuations of a session ask for

A session is continued from the contexts that it has brought, in any directions. Each continuation
repeats the parameters of the first request, and goes on from the last page in its own direction.
-/
namespace Transit.Hafas

open Client (JourneyPage)

/-! ### The references of a page -/

section References

variable {c : Client} {answer : Answer} {page : JourneyPage} {body : Json}

/-- The reference in a direction that a body has: the text in the field of its name or, in a list of
the fields, at its place. -/
def referenceIn : Direction → Json → Option String
  | .earlier, .obj fields => (fields.lookup "earlierRef").bind Json.string?
  | .later, .obj fields => (fields.lookup "laterRef").bind Json.string?
  | .earlier, .arr items => items[1]?.bind Json.string?
  | .later, .arr items => items[2]?.bind Json.string?
  | _, _ => none

/-- An answer with a body that has this reference, or none. -/
inductive Answer.Refers (d : Direction) : Answer → Option String → Prop
  | body {status : Nat} {retryAfter : Option String} {address : Url} {text : String} {body : Json}
    (read : Json.ofText? text = some body) :
    Refers d (.response status retryAfter address (some text)) (referenceIn d body)

/-- In a record, either form of it, a reference is in the field of its name. -/
theorem referenceIn_eq {r : Json.Record}
    (h : body.record? ["journeys", "earlierRef", "laterRef", "realtimeDataUpdatedAt"] = some r) :
    referenceIn .earlier body = (r.get? "earlierRef").bind Json.string? ∧
      referenceIn .later body = (r.get? "laterRef").bind Json.string? := by
  rw [Json.record?.eq_def] at h
  cases body with
  | obj fields =>
    dsimp only at h
    split at h
    · cases h
      exact ⟨rfl, rfl⟩
    · cases h
  | arr items =>
    dsimp only at h
    split at h
    · cases h
      rcases items with _ | ⟨journeys, _ | ⟨earlier, _ | ⟨later, items⟩⟩⟩ <;> exact ⟨rfl, rfl⟩
    · cases h
  | _ => cases h

theorem referenceIn_of_ofJson? {found : JourneysAnswer}
    (h : JourneysAnswer.ofJson? body = some found) :
    referenceIn .earlier body = found.earlierRef ∧ referenceIn .later body = found.laterRef := by
  simp only [JourneysAnswer.ofJson?, Option.bind_eq_bind, Option.bind_eq_some_iff] at h
  obtain ⟨r, hr, journeys, -, earlier, hearlier, later, hlater, updated, -, hfound⟩ := h
  obtain rfl := Option.some.inj hfound
  obtain ⟨hbefore, hafter⟩ := referenceIn_eq hr
  exact ⟨hbefore.trans (Json.Record.optional_string hearlier),
    hafter.trans (Json.Record.optional_string hlater)⟩

/-- The references of a page are those of the answer. -/
theorem Client.refers_of_pageIn (h : c.pageIn answer = .ok page) (d : Direction) :
    answer.Refers d (page.reference d) := by
  have htaken := reading_taken c JourneysAnswer.ofJson? answer
  rw [pageIn] at h
  generalize c.reading JourneysAnswer.ofJson? answer = outcome at h htaken
  cases htaken with
  | @good status retryAfter address text found usual good fits =>
    obtain ⟨body, htext, hfound⟩ := Option.bind_eq_some_iff.mp fits
    obtain rfl := Except.ok.inj h
    obtain ⟨hearlier, hlater⟩ := referenceIn_of_ofJson? hfound
    have hreference : referenceIn d body = (c.pageOf address found).reference d := by
      cases d
      · exact hlater
      · exact hearlier
    exact hreference ▸ .body htext
  | _ => cases h

end References

/-! ### The places of a session -/

/-- A place in a session: the context there, the first page of the session, and the further pages
up to this place, the last one first. -/
structure Bookmark where
  context : TripsContext
  first : JourneyPage
  further : List (Direction × JourneyPage) := []

namespace Bookmark

/-- The last page in a direction; the first page if there has been none. -/
def last (m : Bookmark) (d : Direction) : JourneyPage :=
  match m.further.find? fun turn => turn.1 = d with
  | some turn => turn.2
  | none => m.first

/-- One page further in a direction. -/
def turn (m : Bookmark) (context : TripsContext) (d : Direction) (page : JourneyPage) : Bookmark :=
  ⟨context, m.first, (d, page) :: m.further⟩

variable {m : Bookmark} {context : TripsContext} {d : Direction} {page : JourneyPage}

theorem last_turn_same : (m.turn context d page).last d = page := by
  simp [last, turn]

theorem last_turn_other {d' : Direction} (h : d ≠ d') :
    (m.turn context d page).last d' = m.last d' := by
  simp [last, turn, h]

/-- The token at a place: the references are those of the last pages. -/
def token (m : Bookmark) (params : Params) : JourneyToken :=
  ⟨params, (m.last .earlier).reference .earlier, (m.last .later).reference .later⟩

theorem reference_token (m : Bookmark) (params : Params) (d : Direction) :
    (m.token params).reference d = (m.last d).reference d := by
  cases d <;> rfl

theorem token_turn (params : Params) : (m.turn context d page).token params =
    (m.token params).advance d page.earlierRef page.laterRef := by
  cases d with
  | later =>
    rw [token, last_turn_same, last_turn_other (by decide)]
    rfl
  | earlier =>
    rw [token, last_turn_same, last_turn_other (by decide)]
    rfl

/-- The context at a place is that of its token, up to the window. -/
def Tracks (m : Bookmark) (params : Params) : Prop :=
  ∃ window, m.context = { (m.token params).toContext with window }

variable {params : Params}

theorem Tracks.ofContext (h : m.Tracks params) :
    JourneyToken.ofContext m.context = .ok (m.token params) := by
  obtain ⟨window, hcontext⟩ := h
  exact JourneyToken.ofContext_of_token (by rw [hcontext])

theorem Tracks.isOpen (h : m.Tracks params) (d : Direction) :
    m.context.isOpen d = ((m.last d).reference d).isSome := by
  obtain ⟨window, hcontext⟩ := h
  rw [hcontext]
  cases d <;> rfl

theorem Tracks.provider (h : m.Tracks params) : m.context.provider = providerName := by
  obtain ⟨window, hcontext⟩ := h
  rw [hcontext]
  rfl

end Bookmark

namespace Client

variable {σ : Type} {c : Client} {backend : Backend σ} {q : TripsQuery} {url : Url}
  {params : Params} {m m' : Bookmark} {d : Direction} {s s' : σ} {first : TripsResult}

/-- The page that was read from the last answer, if it could be read. -/
def lastRead? (c : Client) (exchanges : List Exchange) : Option JourneyPage :=
  exchanges.getLast?.bind fun e => (c.pageIn e.2).toOption

/-- From a place to the next one by a good page, whatever state the backend is in. -/
inductive Turns (c : Client) (backend : Backend σ) : Bookmark → Bookmark → Prop
  | page {m : Bookmark} {d : Direction} {s t : σ} {exchanges : List Exchange} {r : TripsResult}
    {context : TripsContext} {page : JourneyPage}
    (result : (c.provider backend.recording).queryMoreTrips m.context d (s, []) =
      (.ok r, t, exchanges))
    (good : r.status = .ok) (goesOn : r.context = some context)
    (read : c.lastRead? exchanges = some page) :
    Turns c backend m (m.turn context d page)

/-- From this place a session can be continued with the given parameters: the context is one of this
provider, its token can be read, and its open directions are those with a reference. In whatever
state the backend is, a continuation in such a direction gives a result after one request, which
asks for journeys with the same parameters and, behind them, the reference of the last page in this
direction. A page that it brings has the references of the answer. -/
structure Follows (c : Client) (backend : Backend σ) (params : Params) (m : Bookmark) : Prop where
  provider : m.context.provider = (c.provider backend).name
  token : JourneyToken.ofContext m.context =
    .ok ⟨params, (m.last .earlier).reference .earlier, (m.last .later).reference .later⟩
  isOpen : ∀ d, m.context.isOpen d = ((m.last d).reference d).isSome
  request : ∀ d s, m.context.isOpen d = true → ∃ reference url r t answer,
    (m.last d).reference d = some reference ∧
    c.Asks "journeys" (params ++ [(continuationKey d, reference)]) url ∧
    backend url s = (answer, t) ∧
    (c.provider backend).queryMoreTrips m.context d s = (.ok r, t) ∧
    (c.provider backend.recording).queryMoreTrips m.context d (s, []) =
      (.ok r, t, [(url, answer)]) ∧
    (keys (params ++ [(continuationKey d, reference)])).Nodup ∧
    ((∃ page context, c.pageIn answer = .ok page ∧
        (∀ d', answer.Refers d' (page.reference d')) ∧ r.status = .ok ∧
        r.context = some context ∧ Turns c backend m (m.turn context d page)) ∨
      (∃ e, c.pageIn answer = .error e) ∧ r.status ≠ .ok ∧ r.context = none)

/-- A continuation towards a reference is one request. -/
theorem queryMoreTrips_tracked (hurl : c.endpoint ["journeys"] = .ok url) (h : m.Tracks params)
    {reference : String} (href : (m.last d).reference d = some reference) {answer : Answer} {t : σ}
    (hanswer : backend (url.withParams (params ++ [referenceParam d reference])) s = (answer, t)) :
    (c.provider backend).queryMoreTrips m.context d s =
      (.ok (Provider.advance m.context.window d (c.turned (m.token params) d (c.pageIn answer))),
        t) := by
  have hopen : m.context.isOpen d = true := by
    rw [h.isOpen, href]
    rfl
  have hpermit : (c.provider backend).permitMore m.context d = .ok () :=
    Provider.permitMore_eq_ok.mpr ⟨rfl, h.provider, hopen⟩
  have hrequest : (c.provider backend).requestMoreTrips m.context d s = _ :=
    requestMoreTrips_referred h.ofContext ((m.reference_token params d).trans href) s
  have hjourneys : c.journeys backend (params ++ [referenceParam d reference]) s =
      (c.pageIn answer, t) := by
    rw [journeys_sent hurl, hanswer]
  rw [Provider.queryMoreTrips_permitted hpermit, hrequest]
  change (Except.map _ (.ok (c.turned _ d
    (c.journeys backend (params ++ [referenceParam d reference]) s).1)), _) = _
  rw [hjourneys]
  exact congrArg _ (congrArg Prod.snd hjourneys)

/-- The request is all there is on the record of such a continuation: a recording backend is a
backend like any other, with the record in its state. -/
theorem queryMoreTrips_exchange (hurl : c.endpoint ["journeys"] = .ok url) (h : m.Tracks params)
    {reference : String} (href : (m.last d).reference d = some reference) {answer : Answer} {t : σ}
    (hanswer : backend (url.withParams (params ++ [referenceParam d reference])) s = (answer, t)) :
    (c.provider backend.recording).queryMoreTrips m.context d (s, []) =
      (.ok (Provider.advance m.context.window d (c.turned (m.token params) d (c.pageIn answer))),
        t, [(url.withParams (params ++ [referenceParam d reference]), answer)]) := by
  exact queryMoreTrips_tracked hurl h href (Backend.recording_eq hanswer [])

/-- A failure of the request leads nowhere. -/
theorem advance_turned_error (window : Option DepartureWindow) (token : JourneyToken)
    (d : Direction) (e : Error) :
    (Provider.advance window d (c.turned token d (.error e))).status ≠ .ok ∧
      (Provider.advance window d (c.turned token d (.error e))).context = none := by
  have hbad : (c.turned token d (.error e)).status ≠ .ok := failureStatus_ne_ok e
  rw [Provider.advance, if_neg hbad]
  exact ⟨hbad, rfl⟩

/-- A page leads to the context of its token. -/
theorem advance_turned_ok (window : Option DepartureWindow) (token : JourneyToken) (d : Direction)
    (page : JourneyPage) :
    (Provider.advance window d (c.turned token d (.ok page))).status = .ok ∧
      ∃ window', (Provider.advance window d (c.turned token d (.ok page))).context =
        some { (token.advance d page.earlierRef page.laterRef).toContext with window := window' } :=
  ⟨Provider.status_advance _ _ _, _, Provider.context_advance _ _ rfl⟩

/-- A good page keeps the context and the last pages in step. -/
theorem tracks_of_turns (hurl : c.endpoint ["journeys"] = .ok url) (h : m.Tracks params)
    (hturns : Turns c backend m m') : m'.Tracks params := by
  cases hturns with
  | @page d s t exchanges r context page result good goesOn read =>
    have hopen := Provider.isOpen_of_queryMoreTrips result
    rw [h.isOpen] at hopen
    obtain ⟨reference, href⟩ := Option.isSome_iff_exists.mp hopen
    rcases hanswer : backend (url.withParams (params ++ [referenceParam d reference])) s
      with ⟨answer, t'⟩
    -- The one exchange on the record fixes the result, so the page that was read from it is the page
    -- that the result was made of.
    rw [queryMoreTrips_exchange hurl h href hanswer] at result
    obtain ⟨hr, hstate⟩ := Prod.mk.inj result
    obtain ⟨-, rfl⟩ := Prod.mk.inj hstate
    obtain rfl := Except.ok.inj hr
    change (c.pageIn answer).toOption = some page at read
    cases hpage : c.pageIn answer with
    | error e =>
      rw [hpage] at read
      cases read
    | ok page' =>
      rw [hpage] at goesOn read
      cases read
      obtain ⟨-, window, hcontext⟩ :=
        advance_turned_ok (c := c) m.context.window (m.token params) d page
      refine ⟨window, ?_⟩
      rw [Bookmark.token_turn]
      exact Option.some.inj (goesOn.symm.trans hcontext)

theorem tracks_of_reached (hurl : c.endpoint ["journeys"] = .ok url) (h : m.Tracks params)
    (hreached : Relation.ReflTransGen (Turns c backend) m m') : m'.Tracks params := by
  induction hreached with
  | refl => exact h
  | tail _ hturns ih => exact tracks_of_turns hurl ih hturns

theorem follows_of_tracks {origin destination : Location} {via : Option Location}
    (hurl : c.endpoint ["journeys"] = .ok url)
    (hparams : journeyParams c.config q origin via destination = .ok params)
    (h : m.Tracks params) : Follows c backend params m where
  provider := h.provider
  token := h.ofContext
  isOpen := h.isOpen
  request := by
    intro d s hopen
    rw [h.isOpen] at hopen
    obtain ⟨reference, href⟩ := Option.isSome_iff_exists.mp hopen
    rcases hanswer : backend (url.withParams (params ++ [referenceParam d reference])) s
      with ⟨answer, t⟩
    have hexchange := queryMoreTrips_exchange hurl h href hanswer
    refine ⟨reference, _, _, t, answer, href, asks_continuation hurl params d reference, hanswer,
      queryMoreTrips_tracked hurl h href hanswer, hexchange,
      keys_nodup hparams (continuationKey_mem d), ?_⟩
    cases hpage : c.pageIn answer with
    | error e =>
      exact .inr ⟨⟨e, rfl⟩, advance_turned_error (c := c) m.context.window (m.token params) d e⟩
    | ok page =>
      obtain ⟨hok, window, hcontext⟩ :=
        advance_turned_ok (c := c) m.context.window (m.token params) d page
      rw [hpage] at hexchange
      have hread : c.lastRead? [(url.withParams (params ++ [referenceParam d reference]), answer)] =
          some page := congrArg Except.toOption hpage
      exact .inl ⟨page, _, rfl, refers_of_pageIn hpage, hok, hcontext,
        .page hexchange hok hcontext hread⟩

/-- A session is opened by requests for its places, and one for journeys with their time. -/
theorem queryTrips_opened (h : (c.provider backend).queryTrips q s = (.ok first, s'))
    (hok : first.status = .ok) :
    ∃ url params origin via destination lookups answer page,
      c.endpoint ["journeys"] = .ok url ∧
      journeyParams c.config q origin via destination = .ok params ∧
      (c.provider backend.recording).queryTrips q (s, []) =
        (.ok first, s', lookups ++ [(url.withParams (params ++ [timeParam q]), answer)]) ∧
      (∀ e ∈ lookups, c.IsLookup e.1) ∧ c.pageIn answer = .ok page ∧ page.trips ≠ [] ∧
      first = Provider.stamp (opening params origin via destination page) := by
  have hpermit := Provider.permit_of_queryTrips h
  change (c.provider backend.recording).permit q = .ok () at hpermit
  obtain ⟨raw, hraw, rfl⟩ := Provider.queryTrips_eq_ok h
  obtain ⟨origin, via, destination, params, page, t, hplaces, hparams, hjourneys, rfl, htrips⟩ :=
    requestTrips_good hraw hok
  obtain ⟨url, hurl, hread⟩ := journeys_eq_ok hjourneys
  rcases hanswer : backend (url.withParams (params ++ [timeParam q])) t with ⟨answer, t'⟩
  rw [hanswer] at hread
  rw [journeys_sent hurl, hanswer] at hjourneys
  obtain ⟨-, rfl⟩ := Prod.mk.inj hjourneys
  obtain ⟨lookups, hlookup, hplace⟩ := resolveEndpoints_records c backend q s []
  rw [hplaces, List.nil_append] at hlookup
  have hsent : (c.provider backend.recording).queryTrips q (s, []) = _ :=
    queryTrips_resolved (Provider.permit_eq_ok.mp hpermit) hlookup hparams hurl
      (Backend.recording_eq hanswer lookups)
  rw [hread] at hsent
  exact ⟨url, params, origin, via, destination, lookups, answer, page, hurl, hparams, hsent, hplace,
    hread, htrips, rfl⟩

/-- In whatever order a session is continued, its places can be continued with the parameters of
its first request, without the time that this had at its end. No request for journeys repeats a
key. -/
theorem continuations_follow (h : (c.provider backend).queryTrips q s = (.ok first, s'))
    (hok : first.status = .ok) :
    ∃ url params lookups answer opened,
      c.Asks "journeys" (params ++ [(timeKey q, q.time.offsetText)]) url ∧
      (c.provider backend.recording).queryTrips q (s, []) =
        (.ok first, s', lookups ++ [(url, answer)]) ∧
      (∀ e ∈ lookups, c.IsLookup e.1) ∧
      (keys (params ++ [(timeKey q, q.time.offsetText)])).Nodup ∧
      first.context = some opened.context ∧ c.pageIn answer = .ok opened.first ∧
      (∀ d, answer.Refers d (opened.first.reference d)) ∧ opened.further = [] ∧
      ∀ m, Relation.ReflTransGen (Turns c backend) opened m → Follows c backend params m := by
  obtain ⟨url, params, origin, via, destination, lookups, answer, page, hurl, hparams, hsent,
    hlookups, hread, htrips, rfl⟩ := queryTrips_opened h hok
  obtain ⟨-, hcontext⟩ := opening_of_trips htrips params origin via destination
  let context : TripsContext :=
    { (JourneyToken.mk params page.earlierRef page.laterRef).toContext with
      window := DepartureWindow.ofTrips (opening params origin via destination page).trips }
  have htracks : (Bookmark.mk context page []).Tracks params := ⟨_, rfl⟩
  refine ⟨_, params, lookups, answer, ⟨context, page, []⟩, asks_search hurl params q, hsent,
    hlookups, keys_nodup hparams (timeKey_mem q), ?_, hread, refers_of_pageIn hread, rfl, ?_⟩
  · rw [Provider.stamp, TripsResult.context_withWindow, hcontext]
    rfl
  · intro m hreached
    exact follows_of_tracks hurl hparams (tracks_of_reached hurl htracks hreached)

/-- Any client whose place and parameters are good is given a walk. -/
theorem opens_of_walks (c : Client) (hurl : c.endpoint ["journeys"] = .ok url)
    (hparams : journeyParams c.config .walk (.station "1") none (.station "2") = .ok params) :
    ∃ first context, (c.provider walkBackend).queryTrips .walk () = (.ok first, ()) ∧
      first.status = .ok ∧ first.context = some context ∧ context.isOpen .later = true := by
  have hpermit : (c.provider walkBackend).Permits .walk := ⟨rfl, nofun, nofun⟩
  obtain ⟨page, hpage, htrips, hlater⟩ :=
    pageIn_walkAnswer c (url.withParams (params ++ [timeParam .walk]))
  have hquery : (c.provider walkBackend).queryTrips .walk () = _ :=
    queryTrips_resolved hpermit rfl hparams hurl rfl
  rw [hpage] at hquery
  obtain ⟨window, hcontext⟩ := context_presented htrips c params (.station "1") none (.station "2")
  exact ⟨_, _, hquery, status_opening htrips _ _ _ _, hcontext, hlater⟩

theorem walk_opens :
    ∃ first context, walkProvider.queryTrips .walk () = (.ok first, ()) ∧ first.status = .ok ∧
      first.context = some context ∧ context.isOpen .later = true := by
  obtain ⟨url, hurl⟩ : ∃ url, walkClient.endpoint ["journeys"] = .ok url := ⟨_, rfl⟩
  obtain ⟨params, hparams⟩ : ∃ params, journeyParams walkClient.config .walk (.station "1") none
    (.station "2") = .ok params := ⟨_, rfl⟩
  exact opens_of_walks walkClient hurl hparams

theorem walk_continuations_follow :
    ∃ first, walkProvider.queryTrips .walk () = (.ok first, ()) ∧ first.status = .ok ∧
      ∃ url params lookups answer opened,
        walkClient.Asks "journeys" (params ++ [("departure", TripsQuery.walk.time.offsetText)])
          url ∧
        (walkClient.provider walkBackend.recording).queryTrips .walk ((), []) =
          (.ok first, (), lookups ++ [(url, answer)]) ∧
        (∀ e ∈ lookups, walkClient.IsLookup e.1) ∧
        (keys (params ++ [("departure", TripsQuery.walk.time.offsetText)])).Nodup ∧
        first.context = some opened.context ∧ walkClient.pageIn answer = .ok opened.first ∧
        (∀ d, answer.Refers d (opened.first.reference d)) ∧ opened.further = [] ∧
        (∀ m, Relation.ReflTransGen (Turns walkClient walkBackend) opened m →
          Follows walkClient walkBackend params m) ∧
        ∃ context page, Turns walkClient walkBackend opened (opened.turn context .later page) := by
  obtain ⟨first, context, hfirst, hok, hcontext, hopen⟩ := walk_opens
  obtain ⟨url, params, lookups, answer, opened, hasked, hsent, hlookups, hkeys, hopened, hread,
    hrefers, hfurther, hfollow⟩ := continuations_follow hfirst hok
  refine ⟨first, hfirst, hok, url, params, lookups, answer, opened, hasked, hsent, hlookups, hkeys,
    hopened, hread, hrefers, hfurther, hfollow, ?_⟩
  obtain rfl := Option.some.inj (hcontext.symm.trans hopened)
  obtain ⟨reference, url', r, t, answer', -, -, hanswer, -, -, -, hpage⟩ :=
    (hfollow opened .refl).request .later () hopen
  obtain rfl : walkAnswer url' = answer' := (Prod.mk.inj hanswer).1
  obtain ⟨page, hwalk, -, -⟩ := walkAnswer_page url'
  rcases hpage with ⟨page, context, -, -, -, -, hturn⟩ | ⟨⟨e, herror⟩, -, -⟩
  · exact ⟨context, page, hturn⟩
  · rw [hwalk] at herror
    cases herror

end Client

end Transit.Hafas
