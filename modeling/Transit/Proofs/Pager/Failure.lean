import Transit.Proofs.Pager.Reference

/-! # Continuations that fail

A continuation takes in a good page as a whole or leaves the pager as it is. So the trips that a run
adds are those that its answers count, and a run without a good page changes nothing.
-/
namespace Transit.Pager

open TripSource (goodPage)

variable {σ : Type} {source : TripSource σ} {pager : Pager} {d : Direction} {s s' : σ}
  {log : List TripsResult}

theorem length_absorb (known page : List Trip) :
    (absorb known page).length = known.length + (novel known page).length := by
  rw [absorb, (Trip.sort_perm _).length_eq, addNew_eq, List.length_append]

/-- The number of trips that an answer tells of; a failure tells of none. -/
def count (answer : Outcome Nat) : Nat := answer.toOption.getD 0

def total : List (Outcome Nat) → Nat
  | [] => 0
  | answer :: rest => count answer + total rest

/-- A continuation fails because its direction is closed, or because the source fails. -/
theorem moreFrom_eq_error {e : ProviderError} :
    (moreFrom source pager d s).1.1 = .error e ↔
      pager.context.ensureOpen d = .error e ∨ pager.context.ensureOpen d = .ok () ∧
        (source.queryMore pager.context d s).1 = .error e := by
  cases hopen : pager.context.ensureOpen d with
  | error e' => simp [moreFrom_shut hopen]
  | ok =>
    rcases hquery : source.queryMore pager.context d s with ⟨answer, t⟩
    cases answer with
    | error e' => simp [moreFrom_failed hopen hquery]
    | ok r => simp [moreFrom_answered hopen hquery]

theorem moreFrom_keeps {e : ProviderError} (h : (moreFrom source pager d s).1.1 = .error e) :
    (moreFrom source pager d s).1.2 = pager := by
  have hstep := moreFrom_step source pager d s
  generalize moreFrom source pager d s = outcome at h hstep ⊢
  cases hstep with
  | closed => rfl
  | failed => rfl
  | passed => cases h
  | taken => cases h

theorem moreFrom_passed {r : TripsResult} (hopen : pager.context.ensureOpen d = .ok ())
    (hquery : (source.queryMore pager.context d s).1 = .ok r) (hr : r.status ≠ .ok) :
    (moreFrom source pager d s).1 = (.ok 0, pager) := by
  rw [moreFrom_answered hopen (Prod.ext hquery rfl), take_other hr]

theorem moreFrom_taken {r : TripsResult} (hopen : pager.context.ensureOpen d = .ok ())
    (hquery : (source.queryMore pager.context d s).1 = .ok r) (hr : r.status = .ok) :
    (moreFrom source pager d s).1 =
      (.ok (novel pager.trips r.trips).length,
        ⟨r.context.getD pager.context, absorb pager.trips r.trips⟩) := by
  rw [moreFrom_answered hopen (Prod.ext hquery rfl), take_ok hr, length_absorb,
    Nat.add_sub_cancel_left]

/-- The list grows by what the answer counts. -/
theorem length_moreFrom (source : TripSource σ) (pager : Pager) (d : Direction) (s : σ) :
    (moreFrom source pager d s).1.2.trips.length =
      pager.trips.length + count (moreFrom source pager d s).1.1 := by
  have hstep := moreFrom_step source pager d s
  generalize moreFrom source pager d s = outcome at hstep ⊢
  cases hstep with
  | closed => rfl
  | failed => rfl
  | passed => rfl
  | taken =>
    change (absorb _ _).length = _ + ((absorb _ _).length - _)
    rw [length_absorb, Nat.add_sub_cancel_left]

theorem length_runFrom (source : TripSource σ) (pager : Pager) (ds : List Direction) (s : σ) :
    (runFrom source pager ds s).1.2.trips.length =
      pager.trips.length + total (runFrom source pager ds s).1.1 := by
  induction ds generalizing pager s with
  | nil => rfl
  | cons d ds ih =>
    have hgrowth := length_moreFrom source pager d s
    rcases hmore : moreFrom source pager d s with ⟨⟨answer, next⟩, s'⟩
    rw [hmore] at hgrowth
    rw [runFrom_cons hmore, total, ih next s', hgrowth, Nat.add_assoc]

theorem prefix_moreFrom (source : TripSource σ) (pager : Pager) (d : Direction) (s : σ)
    (log : List TripsResult) : log <+: (moreFrom source.recording pager d (s, log)).2.2 := by
  obtain ⟨pages, hmore, -⟩ := moreFrom_recording source pager d s log
  rw [hmore]
  exact List.prefix_append log pages

theorem prefix_runFrom (source : TripSource σ) (pager : Pager) (ds : List Direction) (s : σ)
    (log : List TripsResult) : log <+: (runFrom source.recording pager ds (s, log)).2.2 := by
  obtain ⟨pages, hrun, -⟩ := runFrom_recording source pager ds s log
  rw [hrun]
  exact List.prefix_append log pages

/-- A good page goes on the record, so without one the pager stays as it is. -/
theorem moreFrom_unrecorded (h : (moreFrom source.recording pager d (s, log)).2.2 = log) :
    (moreFrom source.recording pager d (s, log)).1.2 = pager := by
  have hstep := moreFrom_step source.recording pager d (s, log)
  generalize moreFrom source.recording pager d (s, log) = outcome at h hstep ⊢
  cases hstep with
  | closed => rfl
  | failed => rfl
  | passed => rfl
  | @taken r t allowed query status =>
    obtain ⟨hanswer, rfl⟩ := Prod.mk.inj query
    have hrecord : log ++ [r] = log := by
      simpa only [hanswer, goodPage, if_pos status] using h
    simp at hrecord

theorem runFrom_unrecorded (ds : List Direction)
    (h : (runFrom source.recording pager ds (s, log)).2.2 = log) :
    (runFrom source.recording pager ds (s, log)).1.2 = pager := by
  induction ds generalizing s with
  | nil => rfl
  | cons d ds ih =>
    have hlonger := prefix_moreFrom source pager d s log
    have hkeeps := @moreFrom_unrecorded _ source pager d s log
    rcases hmore : moreFrom source.recording pager d (s, log) with ⟨⟨answer, next⟩, s', log'⟩
    rw [hmore] at hlonger hkeeps
    rw [runFrom_cons hmore] at h ⊢
    have hrest := prefix_runFrom source next ds s' log'
    -- The record only gets longer, so this continuation has put nothing on it.
    have hlast : log'.length ≤ log.length := h ▸ hrest.length_le
    obtain rfl : log = log' := List.IsPrefix.eq_of_length_le hlonger hlast
    obtain rfl : next = pager := hkeeps rfl
    exact ih h

/-- A run without a good page leaves the pager as it is. -/
theorem runFrom_keeps (ds : List Direction)
    (h : (runFrom source.recording pager ds (s, [])).2.2 = []) :
    (runFrom source pager ds s).1.2 = pager := by
  have hkeeps := runFrom_unrecorded ds h
  obtain ⟨pages, hrun, -⟩ := runFrom_recording source pager ds s []
  rwa [hrun] at hkeeps

/-- Whatever the source answers, a continuation is all or nothing. It fails exactly when its
direction is closed or the source fails, and then the pager stays as it is, as it does with a page
that is not good. A good page is taken in: the answer is the number of trips by which the list has
grown, and the context is the one that came with the page, if one came. Over a run the answers add
up to the growth of the list, and without a good page nothing changes. -/
theorem continuations_all_or_nothing (source : TripSource σ) (pager : Pager) :
    (∀ d s e, (moreFrom source pager d s).1.1 = .error e ↔
      pager.context.ensureOpen d = .error e ∨ pager.context.ensureOpen d = .ok () ∧
        (source.queryMore pager.context d s).1 = .error e) ∧
    (∀ d s e, (moreFrom source pager d s).1.1 = .error e →
      (moreFrom source pager d s).1.2 = pager) ∧
    (∀ d s r, pager.context.ensureOpen d = .ok () →
      (source.queryMore pager.context d s).1 = .ok r →
        (r.status ≠ .ok → (moreFrom source pager d s).1 = (.ok 0, pager)) ∧
        (r.status = .ok → ∃ n next, (moreFrom source pager d s).1 = (.ok n, next) ∧
          next.trips = absorb pager.trips r.trips ∧
          next.trips.length = pager.trips.length + n ∧
          next.context = r.context.getD pager.context)) ∧
    ∀ ds s, (runFrom source pager ds s).1.2.trips.length =
        pager.trips.length + total (runFrom source pager ds s).1.1 ∧
      ((runFrom source.recording pager ds (s, [])).2.2 = [] →
        (runFrom source pager ds s).1.2 = pager) := by
  refine ⟨fun d s e => moreFrom_eq_error, fun d s e => moreFrom_keeps, ?_, ?_⟩
  · intro d s r hopen hquery
    refine ⟨moreFrom_passed hopen hquery, fun hr => ?_⟩
    refine ⟨_, _, moreFrom_taken hopen hquery hr, rfl, ?_, rfl⟩
    exact length_absorb pager.trips r.trips
  · intro ds s
    exact ⟨length_runFrom source pager ds s, runFrom_keeps ds⟩

/-- Answers from a script, whatever is asked. -/
def scripted : TripSource (List (Outcome TripsResult)) where
  query _ := next
  queryMore _ _ := next
where
  next : StateM (List (Outcome TripsResult)) (Outcome TripsResult)
    | [] => (.error (.unexpectedResponse "the script has ended"), [])
    | answer :: rest => (answer, rest)

/-- A time-out, a page that is not good, and a good page without a context. -/
def outage : List (Outcome TripsResult) :=
  [.error (.transport "" true), .ok (.bare ⟨"", "", none, none⟩ .serviceDown),
    .ok { Provider.endless [.walk .least] with context := none }]

/-- A session that can be continued in both directions, with one walk. -/
def stroll : Pager := ⟨⟨"", true, true, ⟨[]⟩, none⟩, [.walk TripsQuery.walk.time]⟩

/-- Nothing changes before the good page comes, which adds one walk and leaves the context. -/
theorem outage_all_or_nothing :
    (runFrom scripted stroll [.later, .earlier] outage).1.2 = stroll ∧
      (moreFrom scripted stroll .later outage).1.2 = stroll ∧
      (moreFrom scripted stroll .earlier (outage.drop 1)).1 = (.ok 0, stroll) ∧
      ∃ n next, (moreFrom scripted stroll .earlier (outage.drop 2)).1 = (.ok n, next) ∧
        next.trips.length = 1 + n ∧ next.context = stroll.context := by
  obtain ⟨-, hfailed, hanswered, hrun⟩ := continuations_all_or_nothing scripted stroll
  obtain ⟨n, next, hmore, -, hlength, hcontext⟩ := (hanswered .earlier (outage.drop 2) _ rfl rfl).2 rfl
  exact ⟨(hrun [.later, .earlier] outage).2 rfl, hfailed .later outage _ rfl,
    (hanswered .earlier (outage.drop 1) _ rfl rfl).1 (by decide), n, next, hmore, hlength, hcontext⟩

end Transit.Pager
