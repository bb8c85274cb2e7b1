import Transit.Proofs.Hafas.Ends
import Transit.Proofs.Hafas.Journeys
import Transit.Proofs.Pager.Run

/-! # Later and earlier pages in any order

Each continuation of a pager extends one of the two ends of its session, so a run depends only on
how often each direction was asked for.
-/
namespace Transit.Hafas

open DepartureWindow (ofTrips)

namespace Session

variable {session : Session} {ends : Direction → SessionEnd} {d : Direction} {σ : Type} {c : Client}
  {backend : Backend σ}

/-- The pages of the session are those that the client gets. -/
def ServedBy (session : Session) (c : Client) (backend : Backend σ) : Prop :=
  ∀ params s, (c.journeys backend params s).1 = session.page params

theorem permitMore_pagerOf (h : (ends d).reference.isSome) :
    (c.provider backend).permitMore (session.pagerOf ends).context d = .ok () := by
  have hopen := ensureOpen_pagerOf session ends d
  rw [if_pos h] at hopen
  exact hopen

theorem queryMore_pagerOf (hserved : session.ServedBy c backend) {reference : String}
    (h : (ends d).reference = some reference) (s : σ) :
    ((c.provider backend).queryMoreTrips (session.pagerOf ends).context d s).1 =
      .ok (Provider.advance (ofTrips (session.tripsOf ends)) d
        (match session.page (session.params ++ [referenceParam d reference]) with
        | .error e => c.failed e
        | .ok page => Client.found page
          ((session.tokenOf ends).advance d page.earlierRef page.laterRef))) := by
  have htoken := (reference_tokenOf session ends d).trans h
  have hrequest := @Client.requestMoreTrips_some _ c backend (session.tokenOf ends)
    (session.pagerOf ends).context d reference rfl htoken s
  rw [hserved] at hrequest
  rw [Provider.queryMoreTrips_permitted (permitMore_pagerOf (h ▸ rfl))]
  change ((c.requestMoreTrips backend (session.pagerOf ends).context d s).1).map _ = _
  rw [hrequest]
  change Except.map _ (match session.page (session.params ++ [referenceParam d reference]) with
    | .error e => _
    | .ok page => _) = _
  cases session.page (session.params ++ [referenceParam d reference]) <;> rfl

/-- A continuation of the pager extends one of its ends. -/
theorem more_pagerOf (hserved : session.ServedBy c backend)
    (h : Chronological (session.tripsOf ends)) (d : Direction) (s : σ) :
    (Pager.more (c.provider backend) (session.pagerOf ends) d s).1 =
      ((session.extend d (ends d)).1, session.pagerOf (session.extendEnd ends d)) := by
  have hopen := ensureOpen_pagerOf session ends d
  rw [Pager.more, extendEnd]
  cases href : (ends d).reference with
  | none =>
    rw [href] at hopen
    rw [Pager.moreFrom_shut hopen, extend_none href, Function.update_eq_self]
  | some reference =>
    rw [href] at hopen
    have hquery := @queryMore_pagerOf session ends d _ c backend hserved reference href s
    rcases hanswer : (c.provider backend).queryMoreTrips (session.pagerOf ends).context d s
      with ⟨outcome, t⟩
    rw [hanswer] at hquery
    obtain rfl := hquery
    have hmore : Pager.moreFrom (c.provider backend).tripSource (session.pagerOf ends) d s = _ :=
      Pager.moreFrom_answered hopen hanswer
    rw [hmore]
    cases hpage : session.page (session.params ++ [referenceParam d reference]) with
    | error e =>
      rw [extend_error href hpage, Function.update_eq_self, Pager.take_other]
      rw [Provider.status_advance]
      exact Client.failureStatus_ne_ok e
    | ok page =>
      rw [extend_ok href hpage, pagerOf_update h page, Pager.take_ok]
      · have hlength : (Pager.absorb (session.tripsOf ends)
            (beyond (ofTrips (session.tripsOf ends)) d page.trips)).length -
              (session.tripsOf ends).length = (session.added d (ends d) page.trips).length := by
          rw [absorb_tripsOf h, Direction.length_attach, Nat.add_sub_cancel_left]
        rw [Provider.trips_advance _ _ rfl, Provider.context_advance _ _ rfl, ← hlength]
        rfl
      · rw [Provider.status_advance]
        rfl

/-- After any continuations, each end has been extended as often as its direction was asked for,
and has given the answers in this direction. -/
theorem run_pagerOf (hserved : session.ServedBy c backend)
    (h : Chronological (session.tripsOf ends)) (ds : List Direction) (s : σ) :
    (Pager.run (c.provider backend) (session.pagerOf ends) ds s).1.2 =
        session.pagerOf (fun d => (session.extendBy d (ds.count d) (ends d)).2) ∧
      ∀ d, Pager.answersTo d ds (Pager.run (c.provider backend) (session.pagerOf ends) ds s).1.1 =
        (session.extendBy d (ds.count d) (ends d)).1 := by
  induction ds generalizing ends s with
  | nil => exact ⟨rfl, fun d => rfl⟩
  | cons d ds ih =>
    have hmore := more_pagerOf hserved h d s
    rcases hnext : Pager.more (c.provider backend) (session.pagerOf ends) d s
      with ⟨⟨answer, next⟩, t⟩
    rw [hnext] at hmore
    obtain ⟨rfl, rfl⟩ := Prod.mk.inj hmore
    obtain ⟨hlast, hanswers⟩ := ih (extendEnd_chronological h d) t
    rw [Pager.run_cons hnext]
    constructor
    · rw [hlast]
      congr 1
      funext d'
      rw [extendBy_end]
    · intro d'
      by_cases hd : d = d'
      · subst hd
        rw [Pager.answersTo_same, extendBy_same]
        exact congrArg _ (hanswers d)
      · rw [Pager.answersTo_other hd, extendBy_other session ends hd]
        exact hanswers d'

/-- A pager of journeys is opened by a page with trips, which lie between two bare ends. -/
theorem pagerOf_start {answer : Url → Answer} {q : TripsQuery} {pager : Pager} {s s' : σ}
    (hanswer : backend.AnswersBy answer)
    (h : Pager.start (c.provider backend) q s = (.ok (.opened pager), s')) :
    ∃ (session : Session) (ends : Direction → SessionEnd), pager = session.pagerOf ends ∧
      session.ServedBy c backend ∧ Chronological (session.tripsOf ends) := by
  obtain ⟨r, context, hq, hok, hc, rfl⟩ := Pager.startFrom_opened h
  obtain ⟨raw, hraw, rfl⟩ := Provider.queryTrips_eq_ok hq
  rw [Provider.stamp, TripsResult.context_withWindow, Option.map_eq_some_iff] at hc
  obtain ⟨rawContext, hrawContext, rfl⟩ := hc
  obtain ⟨origin, via, destination, params, page, -, -, -, -, rfl, hpage⟩ :=
    Client.requestTrips_good hraw hok
  obtain ⟨htrips, hcontext⟩ := Client.opening_of_trips hpage params origin via destination
  obtain rfl := Option.some.inj (hrawContext.symm.trans hcontext)
  have hopened : Pager.absorb [] page.trips ≠ [] := by
    intro hempty
    have hnone := Pager.departures_absorb [] page.trips
    rw [hempty, departures_nil, List.nil_append] at hnone
    exact hpage (departures_eq_empty.mp hnone.symm)
  let session : Session := ⟨c.pageFor answer, params, Pager.absorb [] page.trips, hopened⟩
  let ends : Direction → SessionEnd := fun d => ⟨page.reference d, []⟩
  have hall : session.tripsOf ends = Pager.absorb [] page.trips := List.append_nil _
  refine ⟨session, ends, ?_, fun params s => Client.journeys_answersBy hanswer params s, ?_⟩
  · rw [Session.pagerOf, hall, Pager.ofTrips_absorb, Provider.trips_stamp, htrips]
    rfl
  · rw [hall]
    exact Pager.absorb_chronological [] page.trips

end Session

namespace Client

variable {σ : Type} {c : Client} {backend : Backend σ} {answer : Url → Answer} {q : TripsQuery}
  {pager : Pager} {s s' : σ}

/-- If requests are answered always in the same way, later and earlier pages may be asked for in
any order: the pager ends up the same, and so does each answer in each direction. -/
theorem interleavings_agree (hanswer : backend.AnswersBy answer)
    (hstart : Pager.start (c.provider backend) q s = (.ok (.opened pager), s'))
    {ds ds' : List Direction} (hcount : ∀ d, ds.count d = ds'.count d) :
    (Pager.run (c.provider backend) pager ds s').1.2.trips =
        (Pager.run (c.provider backend) pager ds' s').1.2.trips ∧
      (Pager.run (c.provider backend) pager ds s').1.2.context =
        (Pager.run (c.provider backend) pager ds' s').1.2.context ∧
      ∀ d, Pager.answersTo d ds (Pager.run (c.provider backend) pager ds s').1.1 =
        Pager.answersTo d ds' (Pager.run (c.provider backend) pager ds' s').1.1 := by
  obtain ⟨session, ends, rfl, hserved, h⟩ := Session.pagerOf_start hanswer hstart
  obtain ⟨hlast, hanswers⟩ := Session.run_pagerOf hserved h ds s'
  obtain ⟨hlast', hanswers'⟩ := Session.run_pagerOf hserved h ds' s'
  have hpager : (Pager.run (c.provider backend) (session.pagerOf ends) ds s').1.2 =
      (Pager.run (c.provider backend) (session.pagerOf ends) ds' s').1.2 := by
    rw [hlast, hlast']
    simp only [hcount]
  refine ⟨by rw [hpager], by rw [hpager], fun d => ?_⟩
  rw [hanswers, hanswers', hcount]

/-- A session has been opened. -/
def hasOpened : Outcome Pager.Start → Bool
  | .ok (.opened _) => true
  | _ => false

theorem opened_of_hasOpened {outcome : Outcome Pager.Start} (h : hasOpened outcome = true) :
    ∃ pager, outcome = .ok (.opened pager) := by
  rcases outcome with e | (pager | r)
  · cases h
  · exact ⟨pager, rfl⟩
  · cases h

theorem walk_interleavings_agree :
    ∃ pager, Pager.start walkProvider .walk () = (.ok (.opened pager), ()) ∧
      (Pager.run walkProvider pager [.later, .earlier, .later] ()).1.2.trips =
        (Pager.run walkProvider pager [.earlier, .later, .later] ()).1.2.trips ∧
      (Pager.run walkProvider pager [.later, .earlier, .later] ()).1.2.context =
        (Pager.run walkProvider pager [.earlier, .later, .later] ()).1.2.context ∧
      ∀ d, Pager.answersTo d [.later, .earlier, .later]
          (Pager.run walkProvider pager [.later, .earlier, .later] ()).1.1 =
        Pager.answersTo d [.earlier, .later, .later]
          (Pager.run walkProvider pager [.earlier, .later, .later] ()).1.1 := by
  have hopened : hasOpened (Pager.start walkProvider .walk ()).1 = true := by decide +kernel
  obtain ⟨pager, hpager⟩ := opened_of_hasOpened hopened
  have hstart : Pager.start walkProvider .walk () = (.ok (.opened pager), ()) :=
    Prod.ext hpager (Subsingleton.elim _ _)
  have hanswer : walkBackend.AnswersBy walkAnswer := fun _ _ => rfl
  exact ⟨pager, hstart, interleavings_agree hanswer hstart fun d => by cases d <;> rfl⟩

end Client

end Transit.Hafas
