import Transit.Proofs.Provider

/-! # Sessions advance

A session is opened by a good first page and goes on from the context of its last good page, in
any directions. Its window spans the departures of all trips it has brought, and a further page is
the part of the backend's page that departs strictly beyond all of them.
-/
namespace Transit

structure TripSession where
  context : TripsContext
  seen : List Trip

namespace TripSession

open DepartureWindow (ofTrips)

variable {σ : Type} {p : Provider σ}

/-- A good page with a context opens a session. -/
def ofResult? (r : TripsResult) : Option TripSession :=
  if r.status = .ok then r.context.map (⟨·, r.trips⟩) else none

/-- A good page adds its trips and hands on its context. Other answers change nothing. -/
def take (session : TripSession) : Outcome TripsResult → TripSession
  | .error _ => session
  | .ok r =>
    if r.status = .ok then ⟨r.context.getD session.context, session.seen ++ r.trips⟩ else session

def step (p : Provider σ) (session : TripSession) (d : Direction) : StateM σ TripSession := do
  return session.take (← p.queryMoreTrips session.context d)

def run (p : Provider σ) (session : TripSession) : List Direction → StateM σ TripSession
  | [] => return session
  | d :: ds => do (← session.step p d).run p ds

/-- The window is that of the trips seen. -/
def Tracked (session : TripSession) : Prop := session.context.window = ofTrips session.seen

theorem tracked_opening (hp : p.CarriesContexts) {q : TripsQuery} {s s' : σ} {r : TripsResult}
    (h : p.queryTrips q s = (.ok r, s')) (hr : r.status = .ok) :
    ∃ session, ofResult? r = some session ∧ session.Tracked := by
  obtain ⟨c, hc, hw⟩ := Provider.context_of_queryTrips hp h hr
  exact ⟨⟨c, r.trips⟩, by rw [ofResult?, if_pos hr, hc]; rfl, hw⟩

theorem tracked_step (hp : p.CarriesContexts) {session : TripSession} (h : session.Tracked)
    (d : Direction) (s : σ) : (session.step p d s).1.Tracked := by
  change (session.take (p.queryMoreTrips session.context d s).1).Tracked
  rcases hq : p.queryMoreTrips session.context d s with ⟨answer, s'⟩
  cases answer with
  | error e => exact h
  | ok r =>
    rw [take]
    split
    · rename_i hr
      obtain ⟨c, hc, hw⟩ := Provider.context_of_queryMoreTrips hp hq hr h
      rw [hc]
      exact hw
    · exact h

theorem tracked_run (hp : p.CarriesContexts) {session : TripSession} (h : session.Tracked)
    (ds : List Direction) (s : σ) : (session.run p ds s).1.Tracked := by
  induction ds generalizing session s with
  | nil => exact h
  | cons d ds ih => exact ih (tracked_step hp h d s) (session.step p d s).2

/-- In the state `s` of the backend, the next good page of the session would be the part of the
backend's page that departs beyond everything seen. -/
def NextPageAdvances (p : Provider σ) (session : TripSession) (s : σ) : Prop :=
  ∀ d r s', p.queryMoreTrips session.context d s = (.ok r, s') → r.status = .ok →
    (∀ t ∈ r.trips, ∀ u ∈ session.seen, d.Beyond t u) ∧
    ∃ raw, p.requestMoreTrips session.context d s = (.ok raw, s') ∧ raw.status = .ok ∧
      r.trips = raw.trips.filter (fun t => ∀ u ∈ session.seen, d.Beyond t u) ∧
      (∀ w, session.context.window = some w → r.trips = raw.trips.filter (w.isBefore d)) ∧
      (session.seen = [] → r.trips = raw.trips)

theorem nextPageAdvances_of_tracked {session : TripSession} (h : session.Tracked) (s : σ) :
    NextPageAdvances p session s := by
  intro d r s' hr hok
  obtain ⟨raw, hraw, rfl⟩ := Provider.queryMoreTrips_eq_ok hr
  rw [Provider.status_advance] at hok
  have hpage := Provider.trips_advance session.context.window d hok
  have hseen := beyond_ofTrips session.seen d raw.trips
  rw [← h, ← hpage] at hseen
  refine ⟨?_, raw, hraw, hok, hseen, ?_, ?_⟩
  · intro t ht
    rw [hseen, List.mem_filter, decide_eq_true_eq] at ht
    exact ht.2
  · intro w hw
    rw [hpage, hw]
    rfl
  · intro hnil
    rw [hpage, h, hnil]
    rfl

/-- Along every session the window spans the departures of all trips seen, so that it is absent
exactly when there are none, and every further page departs strictly beyond them. -/
theorem pages_advance (hp : p.CarriesContexts) (q : TripsQuery) (ds : List Direction)
    {s s' : σ} {first : TripsResult} (hfirst : p.queryTrips q s = (.ok first, s'))
    (hok : first.status = .ok) :
    ∃ opening, ofResult? first = some opening ∧
      DepartureWindow.Spans (opening.run p ds s').1.context.window
        (departures (opening.run p ds s').1.seen) ∧
      NextPageAdvances p (opening.run p ds s').1 (opening.run p ds s').2 := by
  obtain ⟨opening, hopening, htracked⟩ := tracked_opening hp hfirst hok
  have hrun := tracked_run hp htracked ds s'
  refine ⟨opening, hopening, ?_, nextPageAdvances_of_tracked hrun _⟩
  rw [hrun]
  exact DepartureWindow.spans_ofTrips _

theorem walks_advance :
    ∃ first s', Provider.walks.queryTrips .walk () = (.ok first, s') ∧ first.status = .ok ∧
      ∃ opening, ofResult? first = some opening ∧
        DepartureWindow.Spans (opening.run .walks [.later, .earlier] s').1.context.window
          (departures (opening.run .walks [.later, .earlier] s').1.seen) ∧
        NextPageAdvances .walks (opening.run .walks [.later, .earlier] s').1
          (opening.run .walks [.later, .earlier] s').2 :=
  ⟨_, _, rfl, rfl, pages_advance Provider.walks_carriesContexts .walk [.later, .earlier] rfl rfl⟩

end TripSession

end Transit
