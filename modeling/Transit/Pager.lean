import Transit.Provider
/-! Pagers: one trip session with all the trips it has brought so far. -/
namespace Transit

structure Pager where
  context : TripsContext
  trips : List Trip := []

namespace Pager

variable {σ : Type}

/-- With the trips of a page: each trip once, all in order of departure. -/
def absorb (known page : List Trip) : List Trip := Trip.sort (addNew known page)

/-- What a first query leads to. -/
inductive Start
  | opened (pager : Pager)
  | closed (result : TripsResult)

/-- A session is opened by a result that is OK. -/
def ofResult (r : TripsResult) : Except ProviderError Start :=
  if r.status = .ok then
    match r.context with
    | some context => .ok (.opened ⟨context, absorb [] r.trips⟩)
    | none => .error (.unexpectedResponse "OK trip result without pagination context")
  else .ok (.closed r)

def startFrom (source : TripSource σ) (q : TripsQuery) : StateM σ (Outcome Start) := do
  return (← source.query q).bind ofResult

def start (p : Provider σ) (q : TripsQuery) : StateM σ (Outcome Start) := startFrom p.tripSource q

/-- Continues from a context that was obtained before, with no trips yet. -/
def resume (context : TripsContext) : Pager := { context }

/-- The pager after a continuation, and the number of trips that are new. -/
def take (pager : Pager) (r : TripsResult) : Nat × Pager :=
  if r.status = .ok then
    let trips := absorb pager.trips r.trips
    (trips.length - pager.trips.length, ⟨r.context.getD pager.context, trips⟩)
  else (0, pager)

/-- Loads the next page in a direction. A closed direction does not reach the provider. -/
def moreFrom (source : TripSource σ) (pager : Pager) (direction : Direction) :
    StateM σ (Outcome Nat × Pager) :=
  match pager.context.ensureOpen direction with
  | .error e => pure (.error e, pager)
  | .ok () => do
    match ← source.queryMore pager.context direction with
    | .error e => return (.error e, pager)
    | .ok r =>
      let (added, pager) := pager.take r
      return (.ok added, pager)

def more (p : Provider σ) (pager : Pager) (direction : Direction) :
    StateM σ (Outcome Nat × Pager) :=
  moreFrom p.tripSource pager direction

def describe (providerName : String) (pager : Pager) : String :=
  "TripPager \x7b provider: " ++ Text.Visible.quoted providerName ++
    ", context: " ++ pager.context.describe ++
    ", trips: " ++ toString pager.trips.length ++ " \x7d"

end Transit.Pager
