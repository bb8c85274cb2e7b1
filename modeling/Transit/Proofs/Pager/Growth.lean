import Transit.Proofs.Pager.Run
import Transit.Proofs.Provider
import Transit.Proofs.TripList

/-! # Pagers grow at the end

The window of a pager's context is always that of its trips, so each good page departs beyond all
of them and is attached where its direction points to.
-/
namespace Transit.Pager

open DepartureWindow (ofTrips)

variable {σ : Type} {p : Provider σ} {q : TripsQuery} {pager : Pager} {d : Direction} {s s' : σ}

/-- The trips are in order, and the context has their window. -/
structure Tracked (pager : Pager) : Prop where
  window : pager.context.window = ofTrips pager.trips
  chronological : Chronological pager.trips

theorem tracked_start (hp : p.CarriesContexts) (h : start p q s = (.ok (.opened pager), s')) :
    pager.Tracked := by
  obtain ⟨r, c, hq, hr, hc, rfl⟩ := startFrom_opened h
  obtain ⟨c', hc', hw⟩ := Provider.context_of_queryTrips hp hq hr
  obtain rfl : c = c' := Option.some.inj (hc.symm.trans hc')
  refine ⟨?_, absorb_chronological [] r.trips⟩
  rw [hw]
  exact (ofTrips_absorb [] r.trips).symm

/-- A good further page is attached at the end its direction points to. -/
theorem absorb_page (h : pager.Tracked) {r : TripsResult}
    (hq : p.queryMoreTrips pager.context d s = (.ok r, s')) (hr : r.status = .ok) :
    absorb pager.trips r.trips = d.attach pager.trips (Trip.sort (distinct r.trips)) := by
  obtain ⟨raw, -, rfl⟩ := Provider.queryMoreTrips_eq_ok hq
  rw [Provider.status_advance] at hr
  rw [Provider.trips_advance _ _ hr, h.window]
  exact absorb_window h.chronological raw.trips

theorem more_tracked (hp : p.CarriesContexts) (h : pager.Tracked) {answer : Outcome Nat}
    {next : Pager} (hmore : more p pager d s = ((answer, next), s')) :
    next.Tracked ∧ ∀ n, answer = .ok n → ∃ new, next.trips = d.attach pager.trips new ∧
      new.length = n := by
  have hstep := moreFrom_step p.tripSource pager d s
  rw [← more, hmore] at hstep
  cases hstep with
  | closed shut => exact ⟨h, fun n hn => by cases hn⟩
  | failed allowed query => exact ⟨h, fun n hn => by cases hn⟩
  | passed allowed query status =>
    refine ⟨h, fun n hn => ⟨[], ?_, ?_⟩⟩
    · cases d with
      | later => exact (List.append_nil _).symm
      | earlier => rfl
    · cases hn
      rfl
  | taken allowed query status =>
    rename_i r
    obtain ⟨c, hc, hw⟩ := Provider.context_of_queryMoreTrips hp query status h.window
    have hpage := absorb_page h query status
    constructor
    · refine ⟨?_, absorb_chronological pager.trips r.trips⟩
      rw [hc]
      exact hw.trans (ofTrips_absorb pager.trips r.trips).symm
    · intro n hn
      cases hn
      refine ⟨_, hpage, ?_⟩
      rw [hpage, Direction.length_attach, Nat.add_sub_cancel_left]

theorem run_tracked (hp : p.CarriesContexts) (h : pager.Tracked) (ds : List Direction) (s : σ) :
    (run p pager ds s).1.2.Tracked := by
  induction ds generalizing pager s with
  | nil => exact h
  | cons d ds ih =>
    rcases hmore : more p pager d s with ⟨⟨answer, next⟩, s'⟩
    rw [run_cons hmore]
    exact ih (more_tracked hp h hmore).1 s'

/-- Wherever continuations have led a pager, its window is that of its trips, a successful later
page is put behind them and a successful earlier page before them, and the answer is the number of
trips put there. -/
theorem grows_at_end (hp : p.CarriesContexts) (ds : List Direction)
    (hstart : start p q s = (.ok (.opened pager), s')) :
    (run p pager ds s').1.2.context.window = ofTrips (run p pager ds s').1.2.trips ∧
      (∀ n next t,
        more p (run p pager ds s').1.2 .later (run p pager ds s').2 = ((.ok n, next), t) →
          ∃ new, next.trips = (run p pager ds s').1.2.trips ++ new ∧ new.length = n) ∧
      ∀ n next t,
        more p (run p pager ds s').1.2 .earlier (run p pager ds s').2 = ((.ok n, next), t) →
          ∃ new, next.trips = new ++ (run p pager ds s').1.2.trips ∧ new.length = n := by
  have hrun := run_tracked hp (tracked_start hp hstart) ds s'
  exact ⟨hrun.window, fun n next t h => (more_tracked hp hrun h).2 n rfl,
    fun n next t h => (more_tracked hp hrun h).2 n rfl⟩

theorem walks_grow_at_end :
    ∃ pager s', start .walks .walk () = (.ok (.opened pager), s') ∧
      (run .walks pager [.later, .earlier] s').1.2.context.window =
        ofTrips (run .walks pager [.later, .earlier] s').1.2.trips ∧
      (∀ n next t, more .walks (run .walks pager [.later, .earlier] s').1.2 .later
          (run .walks pager [.later, .earlier] s').2 = ((.ok n, next), t) →
        ∃ new, next.trips = (run .walks pager [.later, .earlier] s').1.2.trips ++ new ∧
          new.length = n) ∧
      ∀ n next t, more .walks (run .walks pager [.later, .earlier] s').1.2 .earlier
          (run .walks pager [.later, .earlier] s').2 = ((.ok n, next), t) →
        ∃ new, next.trips = new ++ (run .walks pager [.later, .earlier] s').1.2.trips ∧
          new.length = n := by
  have hstart : start .walks .walk () = (.ok (.opened ⟨_, _⟩), ()) := rfl
  exact ⟨_, _, hstart, grows_at_end Provider.walks_carriesContexts [.later, .earlier] hstart⟩

end Transit.Pager
