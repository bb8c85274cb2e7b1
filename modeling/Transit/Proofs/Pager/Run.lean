import Transit.Pager

/-! Runs of a pager: continuations one after the other, and all that one of them can do. -/
namespace Transit.Pager

variable {σ : Type}

/-- The answers of some continuations, and the pager behind them. -/
def runFrom (source : TripSource σ) (pager : Pager) :
    List Direction → StateM σ (List (Outcome Nat) × Pager)
  | [] => return ([], pager)
  | d :: ds => do
    let (answer, next) ← moreFrom source pager d
    let (answers, last) ← runFrom source next ds
    return (answer :: answers, last)

def run (p : Provider σ) (pager : Pager) (ds : List Direction) :
    StateM σ (List (Outcome Nat) × Pager) := runFrom p.tripSource pager ds

/-- The answers to the continuations in one direction, in order. -/
def answersTo (d : Direction) (ds : List Direction) (answers : List (Outcome Nat)) :
    List (Outcome Nat) :=
  (ds.zip answers).filterMap fun asked => if asked.1 = d then some asked.2 else none

/-- A first query and some continuations. -/
def sessionFrom (source : TripSource σ) (q : TripsQuery) (ds : List Direction) :
    StateM σ (Outcome Start) := do
  match ← startFrom source q with
  | .ok (.opened pager) => return .ok (.opened (← runFrom source pager ds).2)
  | outcome => return outcome

variable {source : TripSource σ} {q : TripsQuery} {pager : Pager} {d : Direction}
  {ds : List Direction} {s s' : σ}

theorem take_ok {r : TripsResult} (hr : r.status = .ok) :
    pager.take r = ((absorb pager.trips r.trips).length - pager.trips.length,
      ⟨r.context.getD pager.context, absorb pager.trips r.trips⟩) := by rw [take, if_pos hr]

theorem take_other {r : TripsResult} (hr : r.status ≠ .ok) : pager.take r = (0, pager) := by
  rw [take, if_neg hr]

/-- All that a continuation can do, with its answer, the next pager and the next state. -/
inductive Step (source : TripSource σ) (pager : Pager) (d : Direction) (s : σ) :
    (Outcome Nat × Pager) × σ → Prop
  | closed {e : ProviderError} (shut : pager.context.ensureOpen d = .error e) :
    Step source pager d s ((.error e, pager), s)
  | failed {e : ProviderError} {s' : σ} (allowed : pager.context.ensureOpen d = .ok ())
    (query : source.queryMore pager.context d s = (.error e, s')) :
    Step source pager d s ((.error e, pager), s')
  | passed {r : TripsResult} {s' : σ} (allowed : pager.context.ensureOpen d = .ok ())
    (query : source.queryMore pager.context d s = (.ok r, s')) (status : r.status ≠ .ok) :
    Step source pager d s ((.ok 0, pager), s')
  | taken {r : TripsResult} {s' : σ} (allowed : pager.context.ensureOpen d = .ok ())
    (query : source.queryMore pager.context d s = (.ok r, s')) (status : r.status = .ok) :
    Step source pager d s
      ((.ok ((absorb pager.trips r.trips).length - pager.trips.length),
        ⟨r.context.getD pager.context, absorb pager.trips r.trips⟩), s')

theorem moreFrom_shut {e : ProviderError} (h : pager.context.ensureOpen d = .error e) (s : σ) :
    moreFrom source pager d s = ((.error e, pager), s) := by
  rw [moreFrom, h]
  rfl

theorem moreFrom_failed {e : ProviderError} (h : pager.context.ensureOpen d = .ok ())
    (hq : source.queryMore pager.context d s = (.error e, s')) :
    moreFrom source pager d s = ((.error e, pager), s') := by
  rw [moreFrom, h]
  simp only [bind, StateT.bind, hq]
  rfl

theorem moreFrom_answered {r : TripsResult} (h : pager.context.ensureOpen d = .ok ())
    (hq : source.queryMore pager.context d s = (.ok r, s')) :
    moreFrom source pager d s = ((.ok (pager.take r).1, (pager.take r).2), s') := by
  rw [moreFrom, h]
  simp only [bind, StateT.bind, hq]
  rfl

theorem moreFrom_step (source : TripSource σ) (pager : Pager) (d : Direction) (s : σ) :
    Step source pager d s (moreFrom source pager d s) := by
  cases hopen : pager.context.ensureOpen d with
  | error e =>
    rw [moreFrom_shut hopen]
    exact .closed hopen
  | ok =>
    rcases hq : source.queryMore pager.context d s with ⟨answer, s'⟩
    cases answer with
    | error e =>
      rw [moreFrom_failed hopen hq]
      exact .failed hopen hq
    | ok r =>
      rw [moreFrom_answered hopen hq]
      by_cases hr : r.status = .ok
      · rw [take_ok hr]
        exact .taken hopen hq hr
      · rw [take_other hr]
        exact .passed hopen hq hr

/-- A session is opened by a good result with a context. -/
theorem startFrom_opened (h : startFrom source q s = (.ok (.opened pager), s')) :
    ∃ r c, source.query q s = (.ok r, s') ∧ r.status = .ok ∧ r.context = some c ∧
      pager = ⟨c, absorb [] r.trips⟩ := by
  have heq : startFrom source q s =
      ((source.query q s).1.bind ofResult, (source.query q s).2) := rfl
  rcases hq : source.query q s with ⟨answer, t⟩
  rw [heq, hq] at h
  obtain ⟨hresult, rfl⟩ := Prod.mk.inj h
  cases answer with
  | error e => cases hresult
  | ok r =>
    change ofResult r = _ at hresult
    rw [ofResult] at hresult
    by_cases hr : r.status = .ok
    · rw [if_pos hr] at hresult
      cases hc : r.context with
      | none =>
        rw [hc] at hresult
        cases hresult
      | some c =>
        rw [hc] at hresult
        cases hresult
        exact ⟨r, c, rfl, hr, hc, rfl⟩
    · rw [if_neg hr] at hresult
      cases hresult

theorem runFrom_cons {answer : Outcome Nat} {next : Pager}
    (h : moreFrom source pager d s = ((answer, next), s')) :
    runFrom source pager (d :: ds) s =
      ((answer :: (runFrom source next ds s').1.1, (runFrom source next ds s').1.2),
        (runFrom source next ds s').2) := by
  have heq : runFrom source pager (d :: ds) s =
      (fun m : (Outcome Nat × Pager) × σ =>
        ((m.1.1 :: (runFrom source m.1.2 ds m.2).1.1, (runFrom source m.1.2 ds m.2).1.2),
          (runFrom source m.1.2 ds m.2).2)) (moreFrom source pager d s) := rfl
  rw [heq, h]

theorem run_cons {p : Provider σ} {answer : Outcome Nat} {next : Pager}
    (h : more p pager d s = ((answer, next), s')) :
    run p pager (d :: ds) s =
      ((answer :: (run p next ds s').1.1, (run p next ds s').1.2), (run p next ds s').2) :=
  runFrom_cons h

theorem answersTo_same (d : Direction) (ds : List Direction) (answer : Outcome Nat)
    (answers : List (Outcome Nat)) :
    answersTo d (d :: ds) (answer :: answers) = answer :: answersTo d ds answers := by
  simp [answersTo]

theorem answersTo_other {d d' : Direction} (h : d ≠ d') (ds : List Direction)
    (answer : Outcome Nat) (answers : List (Outcome Nat)) :
    answersTo d' (d :: ds) (answer :: answers) = answersTo d' ds answers := by
  simp [answersTo, h]

theorem runFrom_append (pager : Pager) (ds ds' : List Direction) (s : σ) :
    (runFrom source pager (ds ++ ds') s).1.2 =
      (runFrom source (runFrom source pager ds s).1.2 ds' (runFrom source pager ds s).2).1.2 := by
  induction ds generalizing pager s with
  | nil => rfl
  | cons d ds ih =>
    rcases hmore : moreFrom source pager d s with ⟨⟨answer, next⟩, s'⟩
    rw [List.cons_append, runFrom_cons hmore, runFrom_cons hmore]
    exact ih next s'

theorem sessionFrom_opened (h : startFrom source q s = (.ok (.opened pager), s')) :
    sessionFrom source q ds s =
      (.ok (.opened (runFrom source pager ds s').1.2), (runFrom source pager ds s').2) := by
  rw [sessionFrom]
  simp only [bind, StateT.bind, h]
  rfl

theorem opened_of_sessionFrom {last : Pager}
    (h : (sessionFrom source q ds s).1 = .ok (.opened last)) :
    ∃ pager s', startFrom source q s = (.ok (.opened pager), s') ∧
      last = (runFrom source pager ds s').1.2 := by
  rcases hstart : startFrom source q s with ⟨outcome, s'⟩
  rw [sessionFrom] at h
  simp only [bind, StateT.bind, hstart] at h
  rcases outcome with e | (opened | closed)
  · cases h
  · cases h
    exact ⟨opened, s', rfl, rfl⟩
  · cases h

end Transit.Pager
