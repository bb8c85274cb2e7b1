import Transit.Proofs.Window
import Transit.Provider

/-! What the trip queries of a provider come to: they are rejected, or they pass a page of the
backend on with its window. -/
namespace Transit

theorem eq_ok_of_bind {ε α β : Type} {x : Except ε α} {f : α → Except ε β} {b : β}
    (h : (x >>= f) = .ok b) : ∃ a, x = .ok a ∧ f a = .ok b := by
  cases x with
  | error e => cases h
  | ok a => exact ⟨a, rfl, h⟩

namespace TripsResult

@[simp] theorem context_withWindow (r : TripsResult) (window : Option DepartureWindow) :
    (r.withWindow window).context = r.context.map fun c => { c with window } := rfl

/-- A result whose status is OK has a context to continue from. -/
def CarriesContext (r : TripsResult) : Prop := r.status = .ok → r.context.isSome

end TripsResult

namespace Provider

open DepartureWindow (ofTrips unite)

variable {σ : Type} {p : Provider σ} {q : TripsQuery} {c : TripsContext} {d : Direction}
  {s s' : σ} {r : TripsResult}

/-- Whatever the backend answers, its good pages carry a context. -/
structure CarriesContexts (p : Provider σ) : Prop where
  first : ∀ q s r, (p.requestTrips q s).1 = .ok r → r.CarriesContext
  further : ∀ c d s r, (p.requestMoreTrips c d s).1 = .ok r → r.CarriesContext

@[simp] theorem trips_stamp (r : TripsResult) : (stamp r).trips = r.trips := rfl

@[simp] theorem status_advance (window : Option DepartureWindow) (d : Direction)
    (r : TripsResult) : (advance window d r).status = r.status := by
  rw [advance]
  split <;> rfl

theorem trips_advance (window : Option DepartureWindow) (d : Direction) (hr : r.status = .ok) :
    (advance window d r).trips = beyond window d r.trips := by
  rw [advance, if_pos hr]
  rfl

theorem context_advance (window : Option DepartureWindow) (d : Direction) (hr : r.status = .ok) :
    (advance window d r).context = r.context.map fun c =>
      { c with window := unite (ofTrips (beyond window d r.trips)) window } := by
  rw [advance, if_pos hr]
  rfl

theorem queryTrips_rejected {e : ProviderError} (h : p.permit q = .error e) :
    p.queryTrips q s = (.error e, s) := by
  rw [queryTrips, h]
  rfl

theorem queryTrips_permitted (h : p.permit q = .ok ()) :
    p.queryTrips q s = ((p.requestTrips q s).1.map stamp, (p.requestTrips q s).2) := by
  rw [queryTrips, h]
  rfl

theorem queryMoreTrips_rejected {e : ProviderError} (h : p.permitMore c d = .error e) :
    p.queryMoreTrips c d s = (.error e, s) := by
  rw [queryMoreTrips, h]
  rfl

theorem queryMoreTrips_permitted (h : p.permitMore c d = .ok ()) :
    p.queryMoreTrips c d s =
      ((p.requestMoreTrips c d s).1.map (advance c.window d), (p.requestMoreTrips c d s).2) := by
  rw [queryMoreTrips, h]
  rfl

theorem permit_of_queryTrips (h : p.queryTrips q s = (.ok r, s')) : p.permit q = .ok () := by
  cases hp : p.permit q with
  | error e =>
    rw [queryTrips_rejected hp] at h
    cases h
  | ok => rfl

theorem permitMore_of_queryMoreTrips (h : p.queryMoreTrips c d s = (.ok r, s')) :
    p.permitMore c d = .ok () := by
  cases hp : p.permitMore c d with
  | error e =>
    rw [queryMoreTrips_rejected hp] at h
    cases h
  | ok => rfl

/-- A first page is the backend's, with its own window. -/
theorem queryTrips_eq_ok (h : p.queryTrips q s = (.ok r, s')) :
    ∃ raw, p.requestTrips q s = (.ok raw, s') ∧ r = stamp raw := by
  rw [queryTrips_permitted (permit_of_queryTrips h)] at h
  rcases hq : p.requestTrips q s with ⟨answer, t⟩
  rw [hq] at h
  cases answer with
  | error e => cases h
  | ok raw =>
    cases h
    exact ⟨raw, rfl, rfl⟩

/-- A further page is the part of the backend's that advances. -/
theorem queryMoreTrips_eq_ok (h : p.queryMoreTrips c d s = (.ok r, s')) :
    ∃ raw, p.requestMoreTrips c d s = (.ok raw, s') ∧ r = advance c.window d raw := by
  rw [queryMoreTrips_permitted (permitMore_of_queryMoreTrips h)] at h
  rcases hq : p.requestMoreTrips c d s with ⟨answer, t⟩
  rw [hq] at h
  cases answer with
  | error e => cases h
  | ok raw =>
    cases h
    exact ⟨raw, rfl, rfl⟩

/-- The context of a first page has the window of its trips. -/
theorem context_of_queryTrips (hp : p.CarriesContexts) (h : p.queryTrips q s = (.ok r, s'))
    (hr : r.status = .ok) :
    ∃ c', r.context = some c' ∧ c'.window = ofTrips r.trips := by
  obtain ⟨raw, hraw, rfl⟩ := queryTrips_eq_ok h
  obtain ⟨c', hc'⟩ := Option.isSome_iff_exists.mp (hp.first q s raw (by rw [hraw]) hr)
  exact ⟨_, by rw [stamp, TripsResult.context_withWindow, hc']; rfl, rfl⟩

/-- If a window is that of the trips seen, the next one is that of the trips seen by then. -/
theorem context_of_queryMoreTrips (hp : p.CarriesContexts)
    (h : p.queryMoreTrips c d s = (.ok r, s')) (hr : r.status = .ok) {seen : List Trip}
    (hc : c.window = ofTrips seen) :
    ∃ c', r.context = some c' ∧ c'.window = ofTrips (seen ++ r.trips) := by
  obtain ⟨raw, hraw, rfl⟩ := queryMoreTrips_eq_ok h
  rw [status_advance] at hr
  obtain ⟨c', hc'⟩ := Option.isSome_iff_exists.mp (hp.further c d s raw (by rw [hraw]) hr)
  refine ⟨_, by rw [context_advance _ _ hr, hc']; rfl, ?_⟩
  change unite _ c.window = _
  rw [trips_advance _ _ hr, hc, DepartureWindow.unite_ofTrips]

/-- The result of a search that can be continued in both directions. -/
def endless (trips : List Trip) : TripsResult :=
  .found ⟨"", "", none, none⟩ trips ⟨"", true, true, ⟨[]⟩, none⟩

/-- A provider with one first page, and one further page in each direction. -/
def ofPages (first : List Trip) (further : Direction → List Trip) : Provider Unit where
  name := ""
  capabilities := [.trips]
  suggestLocations _ := return .error (.precondition "")
  queryNearby _ := return .error (.precondition "")
  queryDepartures _ := return .error (.precondition "")
  requestTrips _ := return .ok (endless first)
  requestMoreTrips _ d := return .ok (endless (further d))

theorem ofPages_carriesContexts (first : List Trip) (further : Direction → List Trip) :
    (ofPages first further).CarriesContexts := by
  constructor
  · intro q s r h _
    cases h
    rfl
  · intro c d s r h _
    cases h
    rfl

end Provider

/-- A result whose outcome is known in part. -/
theorem exists_result {α β : Type} {outcome : Outcome α × Unit} {f : α → β} {b : β}
    (h : outcome.1.toOption.map f = some b) : ∃ r, outcome = (.ok r, ()) ∧ f r = b := by
  obtain ⟨r, hr, hb⟩ := Option.map_eq_some_iff.mp h
  rcases outcome with ⟨e | r', t⟩
  · cases hr
  · cases hr
    exact ⟨r, rfl, hb⟩

/-- A walk from one station to another that takes no time. -/
def Trip.walk (start : Instant) : Trip where
  id := ""
  legs := [.individual (.between .walk (.station "1") start (.station "2") start)]
  firstDeparture := start
  lastArrival := start
  departs := rfl
  arrives := rfl

def TripsQuery.walk : TripsQuery where
  origin := .station "1"
  destination := .station "2"
  time := ⟨0, 0, by decide, by decide⟩

/-- A walk at the start of 1970, one an hour later and one an hour earlier. -/
def Provider.walks : Provider Unit :=
  .ofPages [.walk ⟨0, 0, by decide, by decide⟩] fun
    | .later => [.walk ⟨3600, 0, by decide, by decide⟩]
    | .earlier => [.walk ⟨-3600, 0, by decide, by decide⟩]

theorem Provider.walks_carriesContexts : Provider.walks.CarriesContexts :=
  ofPages_carriesContexts _ _

end Transit
