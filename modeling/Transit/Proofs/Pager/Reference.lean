import Transit.Proofs.Pager.Run
import Transit.Proofs.Provider
import Transit.Proofs.TripList

/-! # A pager and the pages it received

All the pages that reach a pager are recorded. Its trips are the first occurrences among the trips
of these pages, stably sorted by first departure.
-/
namespace Transit

namespace TripSource

variable {σ : Type}

/-- The result of a query, if its status is OK. -/
def goodPage : Outcome TripsResult → List TripsResult
  | .ok r => if r.status = .ok then [r] else []
  | .error _ => []

/-- Keeps a record of the good results that it gives, in order. -/
def recording (source : TripSource σ) : TripSource (σ × List TripsResult) where
  query q := fun (s, log) =>
    ((source.query q s).1, (source.query q s).2, log ++ goodPage (source.query q s).1)
  queryMore c d := fun (s, log) =>
    ((source.queryMore c d s).1, (source.queryMore c d s).2,
      log ++ goodPage (source.queryMore c d s).1)

end TripSource

namespace Pager

open TripSource (goodPage)

variable {σ : Type} {source : TripSource σ} {q : TripsQuery} {pager : Pager} {s s' : σ}

/-- The good results that a session gets from its source. -/
def received (source : TripSource σ) (q : TripsQuery) (ds : List Direction) (s : σ) :
    List TripsResult := (sessionFrom source.recording q ds (s, [])).2.2

/-- Takes in one page after the other. -/
def absorbAll (known : List Trip) (pages : List TripsResult) : List Trip :=
  pages.foldl (fun known r => absorb known r.trips) known

theorem absorbAll_append (known : List Trip) (pages pages' : List TripsResult) :
    absorbAll known (pages ++ pages') = absorbAll (absorbAll known pages) pages' :=
  List.foldl_append

theorem absorbAll_eq (seen : List Trip) (pages : List TripsResult) :
    absorbAll (Trip.sort (distinct seen)) pages =
      Trip.sort (distinct (seen ++ pages.flatMap TripsResult.trips)) := by
  induction pages generalizing seen with
  | nil => simp [absorbAll]
  | cons r pages ih =>
    rw [List.flatMap_cons, ← List.append_assoc, ← ih, absorbAll, List.foldl_cons, absorb_distinct]
    rfl

theorem absorbAll_nil (pages : List TripsResult) :
    absorbAll [] pages = Trip.sort (distinct (pages.flatMap TripsResult.trips)) := by
  have h := absorbAll_eq [] pages
  rwa [show Trip.sort (distinct []) = [] from Trip.sort_nil, List.nil_append] at h

/-- Recording changes nothing, and what it adds to the record is what the pager takes in. -/
theorem moreFrom_recording (source : TripSource σ) (pager : Pager) (d : Direction) (s : σ)
    (log : List TripsResult) :
    ∃ pages, moreFrom source.recording pager d (s, log) =
        ((moreFrom source pager d s).1, (moreFrom source pager d s).2, log ++ pages) ∧
      (moreFrom source pager d s).1.2.trips = absorbAll pager.trips pages := by
  cases hopen : pager.context.ensureOpen d with
  | error e =>
    rw [moreFrom_shut hopen, moreFrom_shut hopen]
    exact ⟨[], by rw [List.append_nil], rfl⟩
  | ok =>
    rcases hq : source.queryMore pager.context d s with ⟨answer, s'⟩
    have hrecorded : source.recording.queryMore pager.context d (s, log) =
        (answer, s', log ++ goodPage answer) := by
      simp only [TripSource.recording, hq]
    refine ⟨goodPage answer, ?_⟩
    cases answer with
    | error e =>
      rw [moreFrom_failed hopen hrecorded, moreFrom_failed hopen hq]
      exact ⟨rfl, rfl⟩
    | ok r =>
      rw [moreFrom_answered hopen hrecorded, moreFrom_answered hopen hq]
      refine ⟨rfl, ?_⟩
      by_cases hr : r.status = .ok
      · rw [take_ok hr, goodPage, if_pos hr]
        rfl
      · rw [take_other hr, goodPage, if_neg hr]
        rfl

theorem runFrom_recording (source : TripSource σ) (pager : Pager) (ds : List Direction) (s : σ)
    (log : List TripsResult) :
    ∃ pages, runFrom source.recording pager ds (s, log) =
        ((runFrom source pager ds s).1, (runFrom source pager ds s).2, log ++ pages) ∧
      (runFrom source pager ds s).1.2.trips = absorbAll pager.trips pages := by
  induction ds generalizing pager s log with
  | nil => exact ⟨[], by rw [List.append_nil]; rfl, rfl⟩
  | cons d ds ih =>
    obtain ⟨page, hmore, htrips⟩ := moreFrom_recording source pager d s log
    rcases hplain : moreFrom source pager d s with ⟨⟨answer, next⟩, s'⟩
    rw [hplain] at hmore htrips
    obtain ⟨pages, hrun, hlast⟩ := ih next s' (log ++ page)
    refine ⟨page ++ pages, ?_, ?_⟩
    · rw [runFrom_cons hmore, runFrom_cons hplain, hrun, List.append_assoc]
    · rw [runFrom_cons hplain, hlast, absorbAll_append, ← htrips]

theorem startFrom_recording (h : startFrom source q s = (.ok (.opened pager), s')) :
    ∃ page, startFrom source.recording q (s, []) = (.ok (.opened pager), s', [page]) ∧
      pager.trips = absorbAll [] [page] := by
  obtain ⟨r, c, hq, hr, hc, rfl⟩ := startFrom_opened h
  refine ⟨r, ?_, rfl⟩
  rw [startFrom]
  simp only [bind, StateT.bind, TripSource.recording, hq, goodPage, if_pos hr]
  change ((ofResult r, s', [r]) : Outcome Start × σ × List TripsResult) = _
  rw [ofResult, if_pos hr, hc]

/-- Everything a session has listed comes from the pages on the record, which leaves the session
as it is. -/
theorem trips_eq_absorbAll (ds : List Direction)
    (h : startFrom source q s = (.ok (.opened pager), s')) :
    (sessionFrom source.recording q ds (s, [])).1 =
        .ok (.opened (runFrom source pager ds s').1.2) ∧
      (runFrom source pager ds s').1.2.trips = absorbAll [] (received source q ds s) := by
  obtain ⟨page, hstart, hfirst⟩ := startFrom_recording h
  obtain ⟨pages, hrun, hlast⟩ := runFrom_recording source pager ds s' [page]
  have hreceived : received source q ds s = [page] ++ pages := by
    rw [received, sessionFrom_opened hstart, hrun]
  constructor
  · rw [sessionFrom_opened hstart, hrun]
  · rw [hreceived, absorbAll_append, ← hfirst, hlast]

theorem sublist_absorbAll {known : List Trip} (h : Chronological known)
    (pages : List TripsResult) : known.Sublist (absorbAll known pages) := by
  induction pages generalizing known with
  | nil => exact List.Sublist.refl known
  | cons r pages ih =>
    exact (sublist_absorb h r.trips).trans (ih (absorb_chronological known r.trips))

/-- At every point of every session, a pager lists the first occurrences among all trips received
so far, stably sorted by first departure. So the list is sorted and without repetitions, and what
it has stays in it, whatever continuations follow. -/
theorem trips_eq_reference (source : TripSource σ) (q : TripsQuery) (ds : List Direction) (s : σ)
    (h : (sessionFrom source q ds s).1 = .ok (.opened pager)) :
    (sessionFrom source.recording q ds (s, [])).1 = .ok (.opened pager) ∧
      pager.trips =
        ((received source q ds s).flatMap TripsResult.trips).eraseDups.mergeSort
          (fun a b => a.firstDeparture ≤ b.firstDeparture) ∧
      Chronological pager.trips ∧ PairwiseDistinct pager.trips ∧
      ∀ ds', ∃ later, (sessionFrom source q (ds ++ ds') s).1 = .ok (.opened later) ∧
        pager.trips.Sublist later.trips := by
  obtain ⟨first, s', hstart, rfl⟩ := opened_of_sessionFrom h
  obtain ⟨hrecorded, htrips⟩ := trips_eq_absorbAll ds hstart
  rw [absorbAll_nil] at htrips
  have hsorted : Chronological (runFrom source first ds s').1.2.trips := by
    rw [htrips]
    exact Trip.sort_chronological _
  refine ⟨hrecorded, ?_, hsorted, ?_, ?_⟩
  · rw [htrips, distinct_eq_eraseDups]
    rfl
  · rw [htrips]
    exact (distinct_pairwise _).perm (Trip.sort_perm _).symm fun hab => by
      rw [BEq.comm]
      exact hab
  · intro ds'
    refine ⟨_, by rw [sessionFrom_opened hstart], ?_⟩
    obtain ⟨pages, -, hlater⟩ := runFrom_recording source (runFrom source first ds s').1.2 ds'
      (runFrom source first ds s').2 []
    rw [runFrom_append, hlater]
    exact sublist_absorbAll hsorted pages

theorem walks_eq_reference :
    ∃ pager,
      (sessionFrom Provider.walks.tripSource .walk [.later, .earlier] ()).1 =
        .ok (.opened pager) ∧
      (sessionFrom Provider.walks.tripSource.recording .walk [.later, .earlier] ((), [])).1 =
        .ok (.opened pager) ∧
      pager.trips =
        ((received Provider.walks.tripSource .walk [.later, .earlier] ()).flatMap
          TripsResult.trips).eraseDups.mergeSort
          (fun a b => a.firstDeparture ≤ b.firstDeparture) ∧
      Chronological pager.trips ∧ PairwiseDistinct pager.trips ∧
      ∀ ds', ∃ later,
        (sessionFrom Provider.walks.tripSource .walk ([.later, .earlier] ++ ds') ()).1 =
          .ok (.opened later) ∧ pager.trips.Sublist later.trips :=
  ⟨_, rfl, trips_eq_reference Provider.walks.tripSource .walk [.later, .earlier] () rfl⟩

end Pager

end Transit
