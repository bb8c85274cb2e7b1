import Transit.Proofs.CommandLine.Listing
import Transit.Proofs.Hafas.Paging
import Transit.Proofs.Hafas.Trips
import Transit.Proofs.Pager.Run
import Transit.Proofs.TripList

/-! # Sessions on the command line

Once the first page of a search is there, a command is going to succeed. Each further page is asked
for only while its direction is open, and then the provider has an answer, good or bad. The list
that is shown is sorted and free of repetitions, and what it has once, it keeps.
-/
namespace Transit

open Hafas (Backend Bookmark Client Exchange JourneyToken Params)

variable {σ : Type}

namespace Pager

variable {first : List Trip} {pager next : Pager} {p : Provider σ} {q : TripsQuery} {d : Direction}
  {outcome : Outcome Nat} {s s' : σ}

/-- A list of trips that are in order, each one once, with all the trips of the first page. -/
structure Keeps (first trips : List Trip) : Prop where
  chronological : Chronological trips
  distinct : PairwiseDistinct trips
  complete : first ⊆ trips

theorem pairwiseDistinct_absorb {known : List Trip} (h : PairwiseDistinct known)
    (page : List Trip) : PairwiseDistinct (absorb known page) :=
  (addNew_pairwise page h).perm (Trip.sort_perm _).symm fun hab => by
    rw [BEq.comm]
    exact hab

/-- A first page without repetitions is listed as a whole. -/
theorem keeps_first (h : PairwiseDistinct first) : Keeps first (absorb [] first) where
  chronological := absorb_chronological [] first
  distinct := pairwiseDistinct_absorb .nil first
  complete := by
    have hall : distinct first = first := distinct_eq_self h
    intro t ht
    rw [absorb, (Trip.sort_perm _).mem_iff]
    change t ∈ distinct first
    rwa [hall]

theorem Keeps.absorb {trips : List Trip} (h : Keeps first trips) (page : List Trip) :
    Keeps first (absorb trips page) where
  chronological := absorb_chronological trips page
  distinct := pairwiseDistinct_absorb h.distinct page
  complete := fun _ ht => (sublist_absorb h.chronological page).mem (h.complete ht)

/-- A listed trip was known, or it is on the page. -/
theorem mem_of_absorb {known page : List Trip} {t : Trip} (h : t ∈ absorb known page) :
    t ∈ known ∨ t ∈ page := by
  rw [absorb, (Trip.sort_perm _).mem_iff] at h
  exact mem_addNew h

/-- Whatever a continuation comes to, each listed trip was known, or the provider has given it. -/
theorem given_of_more {t : Trip} (hmore : Pager.more p pager d s = ((outcome, next), s'))
    (ht : t ∈ next.trips) : t ∈ pager.trips ∨ p.Gives t := by
  have hstep := moreFrom_step p.tripSource pager d s
  rw [show moreFrom p.tripSource pager d s = _ from hmore] at hstep
  cases hstep with
  | closed shut => exact .inl ht
  | failed allowed query => exact .inl ht
  | passed allowed query status => exact .inl ht
  | taken allowed query status => exact (mem_of_absorb ht).imp id fun hpage => .further query hpage

/-- Whatever a continuation comes to, the list keeps what it has. -/
theorem Keeps.more (h : Keeps first pager.trips)
    (hmore : Pager.more p pager d s = ((outcome, next), s')) : Keeps first next.trips := by
  have hstep := moreFrom_step p.tripSource pager d s
  rw [show moreFrom p.tripSource pager d s = _ from hmore] at hstep
  cases hstep with
  | closed shut => exact h
  | failed allowed query => exact h
  | passed allowed query status => exact h
  | taken allowed query status => exact h.absorb _

/-- A good result with a context opens a session. -/
theorem start_opened {r : TripsResult} {context : TripsContext}
    (h : p.queryTrips q s = (.ok r, s')) (hok : r.status = .ok)
    (hcontext : r.context = some context) :
    start p q s = (.ok (.opened ⟨context, Pager.absorb [] r.trips⟩), s') := by
  have heq : start p q s = ((p.queryTrips q s).1.bind ofResult, (p.queryTrips q s).2) := rfl
  rw [heq, h]
  change (ofResult r, s') = _
  rw [ofResult, if_pos hok, hcontext]

end Pager

namespace CommandLine

open Hafas (continuationKey journeyParams referenceParam timeKey timeParam)

variable {c : Client} {backend : Backend σ} {url : Url} {params : Params} {d : Direction}
  {key : String} {count : Nat} {pager next last : Pager} {exchanges : List Exchange} {s t : σ}

/-- What is loaded in a direction, in a number of turns: one page after the other, as long as the
direction is open, each for one request for journeys that tells the reference of the moment under
some key. The token of the session has this reference, and the parameters that stay. -/
inductive Loads (c : Client) (backend : Backend σ) (params : Params) (d : Direction)
    (key : String) : Nat → Pager → σ → List Exchange → Pager → σ → Prop
  | enough {pager : Pager} {s : σ} : Loads c backend params d key 0 pager s [] pager s
  | shut {count : Nat} {pager : Pager} {s : σ} (closed : pager.context.isOpen d = false) :
    Loads c backend params d key (count + 1) pager s [] pager s
  | page {count added : Nat} {pager next last : Pager} {s t u : σ} {reference : String} {url : Url}
    {answer : Hafas.Answer} {exchanges : List Exchange} {token : JourneyToken}
    (isOpen : pager.context.isOpen d = true)
    (decoded : JourneyToken.ofContext pager.context = .ok token)
    (repeated : token.params = params) (refers : token.reference d = some reference)
    (asked : c.Asks "journeys" (params ++ [(key, reference)]) url)
    (sent : backend url s = (answer, t))
    (taken : Pager.more (c.provider backend) pager d s = ((.ok added, next), t))
    (rest : Loads c backend params d key count next t exchanges last u) :
    Loads c backend params d key (count + 1) pager s ((url, answer) :: exchanges) last u

theorem Loads.length_le (h : Loads c backend params d key count pager s exchanges last t) :
    exchanges.length ≤ count := by
  induction h with
  | enough => exact Nat.le_refl 0
  | shut closed => exact Nat.zero_le _
  | page isOpen decoded repeated refers asked sent taken rest ih => exact Nat.succ_le_succ ih

theorem Loads.keeps {first : List Trip}
    (h : Loads c backend params d key count pager s exchanges last t)
    (hkeeps : Pager.Keeps first pager.trips) : Pager.Keeps first last.trips := by
  induction h with
  | enough => exact hkeeps
  | shut closed => exact hkeeps
  | page isOpen decoded repeated refers asked sent taken rest ih => exact ih (hkeeps.more taken)

/-- All trips that are loaded have been given. -/
theorem Loads.given (h : Loads c backend params d key count pager s exchanges last t)
    (hgiven : ∀ t ∈ pager.trips, (c.provider backend).Gives t) :
    ∀ t ∈ last.trips, (c.provider backend).Gives t := by
  induction h with
  | enough => exact hgiven
  | shut closed => exact hgiven
  | page isOpen decoded repeated refers asked sent taken rest ih =>
    exact ih fun t ht => (Pager.given_of_more taken ht).elim (hgiven t) id

/-- The context of a pager is one of a session with these parameters. -/
def OnTrack (params : Params) (pager : Pager) : Prop :=
  ∃ m : Bookmark, m.Tracks params ∧ pager.context = m.context

/-- A good page leads to the context of its token, and any other one changes nothing. -/
theorem onTrack_take {m : Bookmark} (h : m.Tracks params) (hcontext : pager.context = m.context)
    (d : Direction) (page : Except Hafas.Error Client.JourneyPage) :
    OnTrack params
      (pager.take
        (Provider.advance pager.context.window d (c.turned (m.token params) d page))).2 := by
  cases page with
  | error e =>
    obtain ⟨hbad, -⟩ :=
      Client.advance_turned_error (c := c) pager.context.window (m.token params) d e
    rw [Pager.take_other hbad]
    exact ⟨m, h, hcontext⟩
  | ok page =>
    obtain ⟨hok, window, hturned⟩ :=
      Client.advance_turned_ok (c := c) pager.context.window (m.token params) d page
    rw [Pager.take_ok hok, hturned]
    refine ⟨m.turn _ d page, ⟨window, ?_⟩, rfl⟩
    rw [Bookmark.token_turn]
    rfl

/-- In an open direction a page is one request, on the record and off it, and leaves the pager on
track, whether the page is good or not. -/
theorem more_onTrack (backend : Backend σ) (hurl : c.endpoint ["journeys"] = .ok url)
    (h : OnTrack params pager) (hopen : pager.context.isOpen d = true) (s : σ) :
    ∃ token reference answer t added next,
      JourneyToken.ofContext pager.context = .ok token ∧ token.params = params ∧
      token.reference d = some reference ∧
      backend (url.withParams (params ++ [referenceParam d reference])) s = (answer, t) ∧
      Pager.more (c.provider backend) pager d s = ((.ok added, next), t) ∧
      (∀ log, Pager.more (c.provider backend.recording) pager d (s, log) = ((.ok added, next), t,
        log ++ [(url.withParams (params ++ [referenceParam d reference]), answer)])) ∧
      OnTrack params next := by
  obtain ⟨m, htracks, hcontext⟩ := h
  have hensure : pager.context.ensureOpen d = .ok () := by
    rw [TripsContext.ensureOpen, if_pos hopen]
  rw [hcontext, htracks.isOpen] at hopen
  obtain ⟨reference, href⟩ := Option.isSome_iff_exists.mp hopen
  rcases hanswer : backend (url.withParams (params ++ [referenceParam d reference])) s
    with ⟨answer, t⟩
  have hplain := Client.queryMoreTrips_tracked hurl htracks href hanswer
  -- The record is part of the state, so what holds of every backend holds of the recording one.
  have hrecorded : ∀ log, backend.recording
      (url.withParams (params ++ [referenceParam d reference])) (s, log) = (answer, t,
        log ++ [(url.withParams (params ++ [referenceParam d reference]), answer)]) := by
    intro log
    rw [Backend.recording, hanswer]
  rw [← hcontext] at hplain
  refine ⟨m.token params, reference, answer, t, _, _, hcontext ▸ htracks.ofContext, rfl,
    (m.reference_token params d).trans href, hanswer, Pager.moreFrom_answered hensure hplain, ?_,
    onTrack_take htracks hcontext d (c.pageIn answer)⟩
  intro log
  have hmore := Client.queryMoreTrips_tracked hurl htracks href (hrecorded log)
  rw [← hcontext] at hmore
  exact Pager.moreFrom_answered hensure hmore

section Turns

variable {p : Provider σ} {added : Nat}

theorem loadPages_shut (h : pager.context.isOpen d = false) (s : σ) :
    loadPages p d (count + 1) pager s = (.ok pager, s) := by
  rw [loadPages, h]
  rfl

theorem loadPages_open (h : pager.context.isOpen d = true)
    (hmore : Pager.more p pager d s = ((.ok added, next), t)) :
    loadPages p d (count + 1) pager s = loadPages p d count next t := by
  rw [loadPages, if_pos h]
  simp only [bind, StateT.bind, hmore]

end Turns

/-- Loading never fails on the way, and the record has what was loaded. -/
theorem loadPages_onTrack (backend : Backend σ) (hurl : c.endpoint ["journeys"] = .ok url)
    (d : Direction) (count : Nat) (h : OnTrack params pager) (s : σ) :
    ∃ exchanges last t,
      Loads c backend params d (continuationKey d) count pager s exchanges last t ∧
      OnTrack params last ∧
      loadPages (c.provider backend) d count pager s = (.ok last, t) ∧
      ∀ log, loadPages (c.provider backend.recording) d count pager (s, log) =
        (.ok last, t, log ++ exchanges) := by
  induction count generalizing pager s with
  | zero => exact ⟨[], pager, s, .enough, h, rfl, fun log => by rw [List.append_nil]; rfl⟩
  | succ count ih =>
    cases hopen : pager.context.isOpen d with
    | false =>
      exact ⟨[], pager, s, .shut hopen, h, loadPages_shut hopen s,
        fun log => by rw [loadPages_shut hopen, List.append_nil]⟩
    | true =>
      obtain ⟨token, reference, answer, t, added, next, hdecoded, hrepeated, hrefers, hsent, hmore,
        hrecorded, hnext⟩ := more_onTrack backend hurl h hopen s
      obtain ⟨exchanges, last, u, hloads, hlast, hrun, hrunRecorded⟩ := ih hnext t
      have hasked := Client.asks_continuation hurl params d reference
      refine ⟨_, last, u, .page hopen hdecoded hrepeated hrefers hasked hsent hmore hloads, hlast,
        ?_, fun log => ?_⟩
      · rw [loadPages_open hopen hmore, hrun]
      · rw [loadPages_open hopen (hrecorded log), hrunRecorded, List.append_assoc]
        rfl

/-- A world in which the backend keeps a record. -/
def World.recording (w : World σ) : World (σ × List Exchange) :=
  ⟨w.file, w.now, w.backend.recording⟩

variable {request : TripsRequest} {q : TripsQuery} {i : Invocation} {first : TripsResult} {s' : σ}

theorem loadAll_loaded {p : Provider σ} {mid : Pager} {u : σ}
    (hlater : loadPages p .later request.later pager s = (.ok mid, t))
    (hearlier : loadPages p .earlier request.earlier mid t = (.ok last, u)) :
    loadAll p request pager s = (.ok last, u) := by
  rw [loadAll]
  simp only [bind, StateT.bind, hlater]
  exact hearlier

/-- What is shown of a session is the list of its pager. -/
theorem run_loaded {w : World σ} (hclient : loadClient w.file i = .ok c)
    (hcommand : i.command = .trips request) (hquery : tripsQuery w.now request = .ok q)
    (hstart : Pager.start (c.provider w.backend) q s = (.ok (.opened pager), s'))
    (hload : loadAll (c.provider w.backend) request pager s' = (.ok last, t)) :
    run w i s = (.ok (listed i.json last.trips), t) := by
  rw [run, hclient]
  simp only [runCommand, hcommand, runTrips, hquery]
  rw [runSession]
  simp only [bind, StateT.bind, hstart, hload]
  rfl

theorem execute_run {w : World σ} {env : Environment} {args : List String} {output : String}
    (hread : read env args = .run i) (hrun : run w i s = (.ok output, t)) :
    execute w env args s = ({ code := 0, output }, t) := by
  rw [execute, hread]
  simp only [bind, StateT.bind, hrun]
  rfl

/-- The context of a good first page is on track. -/
theorem onTrack_of_queryTrips {params : Params} {page : Client.JourneyPage}
    {origin destination : Location} {via : Option Location} (htrips : page.trips ≠ [])
    (hfirst : first = Provider.stamp (Client.opening params origin via destination page)) :
    ∃ context, first.context = some context ∧ ∀ trips, OnTrack params ⟨context, trips⟩ := by
  obtain ⟨-, hcontext⟩ := Client.opening_of_trips htrips params origin via destination
  rw [hfirst, Provider.stamp, TripsResult.context_withWindow, hcontext]
  exact ⟨_, rfl, fun trips => ⟨⟨_, page, []⟩, ⟨_, rfl⟩, rfl⟩⟩

/-- A command for trips that has found some does not fail any more, whatever the backend answers to
the further requests. As text or as JSON, it shows a sorted list without repetitions, which has all
trips of the first page. Behind the requests of the search stand those for later pages and then
those for earlier ones, no more of them than were asked for, and each in a direction that is open. -/
theorem sessions_are_shown (w : World σ) (env : Environment) (args : List String)
    (hread : read env args = .run i) (hcommand : i.command = .trips request)
    (hclient : loadClient w.file i = .ok c) (hquery : tripsQuery w.now request = .ok q)
    (hfirst : (c.provider w.backend).queryTrips q s = (.ok first, s')) (hok : first.status = .ok) :
    ∃ url params context lookups answer laters mid t earliers last u, ∃ output : Bool → String,
      c.Asks "journeys" (params ++ [(timeKey q, q.time.offsetText)]) url ∧
      first.context = some context ∧ (∀ e ∈ lookups, c.IsLookup e.1) ∧
      Loads c w.backend params .later "laterThan" request.later
        ⟨context, Pager.absorb [] first.trips⟩ s' laters mid t ∧
      Loads c w.backend params .earlier "earlierThan" request.earlier mid t earliers last u ∧
      laters.length ≤ request.later ∧ earliers.length ≤ request.earlier ∧
      Pager.Keeps first.trips last.trips ∧ last.trips ≠ [] ∧
      (∀ json, Shows json last.trips (output json)) ∧
      (∀ json, run w { i with json } s = (.ok (output json), u)) ∧
      execute w env args s = ({ code := 0, output := output i.json }, u) ∧
      execute w.recording env args (s, []) =
        ({ code := 0, output := output i.json }, u,
          lookups ++ [(url, answer)] ++ laters ++ earliers) := by
  obtain ⟨url, params, origin, via, destination, lookups, answer, page, hurl, -, hsent, hlookups, -,
    htrips, hopened⟩ := Client.queryTrips_opened hfirst hok
  obtain ⟨context, hcontext, htrack⟩ := onTrack_of_queryTrips htrips hopened
  have htravelled := (Client.queryTrips_tells hfirst).trips hok
  have hkeeps := Pager.keeps_first htravelled.2
  have hgiven : ∀ t ∈ Pager.absorb [] first.trips, (c.provider w.backend).Gives t :=
    fun t ht => .first hfirst ((Pager.mem_of_absorb ht).elim nofun id)
  obtain ⟨laters, mid, t, hlaters, hmid, hlater, hlaterRecorded⟩ :=
    loadPages_onTrack w.backend hurl .later request.later (htrack _) s'
  obtain ⟨earliers, last, u, hearliers, -, hearlier, hearlierRecorded⟩ :=
    loadPages_onTrack w.backend hurl .earlier request.earlier hmid t
  have hlast := hearliers.keeps (hlaters.keeps hkeeps)
  have hshown : ∀ json, Shows json last.trips (listed json last.trips) :=
    shows_listed fun t ht => Client.readable_of_gives (hearliers.given (hlaters.given hgiven) t ht)
  have hrun : ∀ json, run w { i with json } s = (.ok (listed json last.trips), u) :=
    fun json => run_loaded (i := { i with json }) hclient hcommand hquery
      (Pager.start_opened hfirst hok hcontext) (loadAll_loaded hlater hearlier)
  have hrecorded : run w.recording i (s, []) =
      (.ok (listed i.json last.trips), u,
        lookups ++ [(url.withParams (params ++ [timeParam q]), answer)] ++ laters ++ earliers) :=
    run_loaded hclient hcommand hquery (Pager.start_opened hsent hok hcontext)
      (loadAll_loaded (hlaterRecorded _) (hearlierRecorded _))
  exact ⟨_, params, context, lookups, answer, laters, mid, t, earliers, last, u,
    fun json => listed json last.trips, Client.asks_search hurl params q, hcontext, hlookups,
    hlaters, hearliers, hlaters.length_le, hearliers.length_le, hlast,
    fun hempty => htravelled.1 (List.eq_nil_of_subset_nil (hempty ▸ hlast.complete)), hshown, hrun,
    execute_run hread (hrun i.json), execute_run hread hrecorded⟩

/-- No files, and walks whatever is asked for. -/
def walkWorld : World Unit := ⟨fun _ => none, TripsQuery.walk.time, Client.walkBackend⟩

def walkRequest : TripsRequest := ⟨"1", "2", none, none, false, none, 1, 0⟩

def walkInvocation : Invocation := ⟨none, none, false, .trips walkRequest⟩

theorem walkWorld_opens :
    ∃ c first context, loadClient walkWorld.file walkInvocation = .ok c ∧
      (c.provider walkWorld.backend).queryTrips .walk () = (.ok first, ()) ∧ first.status = .ok ∧
      first.context = some context ∧ context.isOpen .later = true := by
  have hsettings : ((loadClient walkWorld.file walkInvocation).toOption.bind fun c =>
      (c.endpoint ["journeys"]).toOption.bind fun _ =>
        (journeyParams c.config .walk (.station "1") none (.station "2")).toOption).isSome := by
    decide +kernel
  obtain ⟨params, hsettings⟩ := Option.isSome_iff_exists.mp hsettings
  obtain ⟨c, hclient, hsettings⟩ := Option.bind_eq_some_iff.mp hsettings
  obtain ⟨url, hurl, hparams⟩ := Option.bind_eq_some_iff.mp hsettings
  obtain ⟨first, context, hopens⟩ :=
    Client.opens_of_walks c (eq_ok_of_toOption hurl) (eq_ok_of_toOption hparams)
  exact ⟨c, first, context, eq_ok_of_toOption hclient, hopens⟩

/-- One later page was asked for, and one request was made for it. -/
theorem walks_are_shown :
    ∃ (c : Client) (first : TripsResult) (trips : List Trip) (output : String)
      (search : List Exchange) (later : Exchange),
      (c.provider walkWorld.backend).queryTrips .walk () = (.ok first, ()) ∧ first.status = .ok ∧
      Pager.Keeps first.trips trips ∧ trips ≠ [] ∧ Shows false trips output ∧
      execute walkWorld {} ["trips", "1", "2", "--later", "1"] () =
        ({ code := 0, output }, ()) ∧
      execute walkWorld.recording {} ["trips", "1", "2", "--later", "1"] ((), []) =
        ({ code := 0, output }, (), search ++ [later]) ∧
      ∃ (params : Params) (reference : String),
        c.Asks "journeys" (params ++ [("laterThan", reference)]) later.1 := by
  obtain ⟨c, first, context, hclient, hfirst, hok, hcontext, hopen⟩ := walkWorld_opens
  have hread : read {} ["trips", "1", "2", "--later", "1"] = .run walkInvocation := rfl
  have hquery : tripsQuery walkWorld.now walkRequest = .ok .walk := rfl
  obtain ⟨url, params, context', lookups, answer, laters, mid, t, earliers, last, u, output, -,
    hcontext', -, hlaters, hearliers, -, -, hkeeps, htrips, hshows, -, hplain, hrecorded⟩ :=
    sessions_are_shown walkWorld {} _ hread rfl hclient hquery hfirst hok
  obtain rfl := Option.some.inj (hcontext.symm.trans hcontext')
  cases hearliers
  cases hlaters with
  | shut closed => exact absurd closed (by rw [hopen]; exact nofun)
  | @page count added pager next last s t u reference url' answer' exchanges token isOpen decoded
      repeated refers asked sent taken rest =>
    cases rest
    rw [List.append_nil] at hrecorded
    exact ⟨c, first, mid.trips, output false, _, _, hfirst, hok, hkeeps, htrips, hshows false,
      hplain, hrecorded, params, reference, asked⟩

end CommandLine

end Transit
