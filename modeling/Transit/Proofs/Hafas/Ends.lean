import Transit.Hafas.Journeys
import Transit.Proofs.TripList

/-! # The two ends of a session

The trips of a session are those of its first page with two ends, and each end goes on by itself:
neither its reference nor the trips that a page adds to it depend on the other end.
-/
namespace Transit.Hafas

open DepartureWindow (ofTrips unite)

/-- The reference in a page that its direction goes on from. -/
def Client.JourneyPage.reference (page : Client.JourneyPage) : Direction → Option String
  | .later => page.laterRef
  | .earlier => page.earlierRef

/-- One end of a session: the reference to go on from, and the trips beyond the first page. -/
structure SessionEnd where
  reference : Option String
  trips : List Trip

/-- What stays the same in a session: the pages that there are, the parameters of each request,
and the trips of the first page. -/
structure Session where
  page : Params → Except Error Client.JourneyPage
  params : Params
  first : List Trip
  opened : first ≠ []

namespace Session

variable (session : Session)

/-- The trips of a page that are new at an end. -/
def added (d : Direction) (e : SessionEnd) (page : List Trip) : List Trip :=
  Trip.sort (distinct (beyond (ofTrips (d.attach session.first e.trips)) d page))

/-- An end after one more page, and the answer to the request for it. -/
def extend (d : Direction) (e : SessionEnd) : Outcome Nat × SessionEnd :=
  match e.reference with
  | none => (.error (.precondition ("context cannot query " ++ d.name ++ " trips")), e)
  | some reference => match session.page (session.params ++ [referenceParam d reference]) with
    | .error _ => (.ok 0, e)
    | .ok page =>
      (.ok (session.added d e page.trips).length,
        ⟨page.reference d, d.attach e.trips (session.added d e page.trips)⟩)

/-- An end after some more pages, and the answers to the requests for them. -/
def extendBy (d : Direction) : Nat → SessionEnd → List (Outcome Nat) × SessionEnd
  | 0, e => ([], e)
  | n + 1, e =>
    ((session.extend d e).1 :: (extendBy d n (session.extend d e).2).1,
      (extendBy d n (session.extend d e).2).2)

def tripsOf (ends : Direction → SessionEnd) : List Trip :=
  (ends .earlier).trips ++ session.first ++ (ends .later).trips

def tokenOf (ends : Direction → SessionEnd) : JourneyToken :=
  ⟨session.params, (ends .earlier).reference, (ends .later).reference⟩

/-- The pager of a session with such ends. -/
def pagerOf (ends : Direction → SessionEnd) : Pager :=
  { context := { (session.tokenOf ends).toContext with window := ofTrips (session.tripsOf ends) }
    trips := session.tripsOf ends }

variable {session} {ends : Direction → SessionEnd} {d : Direction}

theorem first_le {t u : Trip} (h : Chronological (session.tripsOf ends)) (ht : t ∈ session.first)
    (hu : u ∈ (ends .later).trips) : t.firstDeparture ≤ u.firstDeparture :=
  (List.pairwise_append.mp h).2.2 t (List.mem_append_right _ ht) u hu

theorem le_first {t u : Trip} (h : Chronological (session.tripsOf ends))
    (ht : t ∈ (ends .earlier).trips) (hu : u ∈ session.first) :
    t.firstDeparture ≤ u.firstDeparture :=
  (List.pairwise_append.mp (List.pairwise_append.mp h).1).2.2 t ht u hu

/-- What departs beyond the trips at one end departs beyond all of them. -/
theorem beyond_all {t : Trip} (h : Chronological (session.tripsOf ends))
    (hend : ∀ u ∈ d.attach session.first (ends d).trips, d.Beyond t u) :
    ∀ u ∈ session.tripsOf ends, d.Beyond t u := by
  obtain ⟨f, hf⟩ := List.exists_mem_of_ne_nil _ session.opened
  intro u hu
  rw [tripsOf, List.mem_append, List.mem_append] at hu
  cases d with
  | later =>
    rcases hu with (hu | hu) | hu
    · exact lt_of_le_of_lt (le_first h hu hf) (hend f (List.mem_append_left _ hf))
    · exact hend u (List.mem_append_left _ hu)
    · exact hend u (List.mem_append_right _ hu)
  | earlier =>
    rcases hu with (hu | hu) | hu
    · exact hend u (List.mem_append_left _ hu)
    · exact hend u (List.mem_append_right _ hu)
    · exact lt_of_lt_of_le (hend f (List.mem_append_right _ hf)) (first_le h hf hu)

theorem mem_tripsOf {u : Trip} (h : u ∈ d.attach session.first (ends d).trips) :
    u ∈ session.tripsOf ends := by
  cases d with
  | later =>
    rw [tripsOf, List.append_assoc]
    exact List.mem_append_right _ h
  | earlier => exact List.mem_append_left _ h

/-- The other end makes no difference to what a page adds. -/
theorem beyond_tripsOf (h : Chronological (session.tripsOf ends))
    (page : List Trip) :
    beyond (ofTrips (session.tripsOf ends)) d page =
      beyond (ofTrips (d.attach session.first (ends d).trips)) d page := by
  rw [beyond_ofTrips, beyond_ofTrips]
  apply List.filter_congr
  intro t _
  rw [decide_eq_decide]
  exact ⟨fun hall u hu => hall u (mem_tripsOf hu), beyond_all h⟩

theorem tripsOf_update (new : List Trip) (reference : Option String) :
    session.tripsOf (Function.update ends d ⟨reference, d.attach (ends d).trips new⟩) =
      d.attach (session.tripsOf ends) new := by
  cases d with
  | later => simp [tripsOf, Direction.attach]
  | earlier => simp [tripsOf, Direction.attach]

theorem tokenOf_update (page : Client.JourneyPage) (trips : List Trip) :
    session.tokenOf (Function.update ends d ⟨page.reference d, trips⟩) =
      (session.tokenOf ends).advance d page.earlierRef page.laterRef := by
  cases d with
  | later => simp [tokenOf, JourneyToken.advance, Client.JourneyPage.reference]
  | earlier => simp [tokenOf, JourneyToken.advance, Client.JourneyPage.reference]

theorem reference_tokenOf (session : Session) (ends : Direction → SessionEnd) (d : Direction) :
    (session.tokenOf ends).reference d = (ends d).reference := by
  cases d <;> rfl

/-- A direction is open as long as its end has a reference. -/
theorem ensureOpen_pagerOf (session : Session) (ends : Direction → SessionEnd) (d : Direction) :
    (session.pagerOf ends).context.ensureOpen d =
      if (ends d).reference.isSome then .ok ()
      else .error (.precondition ("context cannot query " ++ d.name ++ " trips")) := by
  cases d <;> rfl

/-- The trips that a page adds at an end. -/
theorem absorb_tripsOf (h : Chronological (session.tripsOf ends))
    (page : List Trip) :
    Pager.absorb (session.tripsOf ends) (beyond (ofTrips (session.tripsOf ends)) d page) =
      d.attach (session.tripsOf ends) (session.added d (ends d) page) := by
  rw [Pager.absorb_window h, beyond_tripsOf h]
  rfl

theorem extend_none (h : (ends d).reference = none) :
    session.extend d (ends d) =
      (.error (.precondition ("context cannot query " ++ d.name ++ " trips")), ends d) := by
  rw [extend, h]

theorem extend_error {reference : String} {e : Error} (h : (ends d).reference = some reference)
    (hpage : session.page (session.params ++ [referenceParam d reference]) = .error e) :
    session.extend d (ends d) = (.ok 0, ends d) := by
  rw [extend, h]
  simp only [hpage]

theorem extend_ok {reference : String} {page : Client.JourneyPage}
    (h : (ends d).reference = some reference)
    (hpage : session.page (session.params ++ [referenceParam d reference]) = .ok page) :
    session.extend d (ends d) = (.ok (session.added d (ends d) page.trips).length,
      ⟨page.reference d, d.attach (ends d).trips (session.added d (ends d) page.trips)⟩) := by
  rw [extend, h]
  simp only [hpage]

variable (session) in
/-- The ends with one of them extended by a page. -/
def extendEnd (ends : Direction → SessionEnd) (d : Direction) : Direction → SessionEnd :=
  Function.update ends d (session.extend d (ends d)).2

theorem extendEnd_chronological (h : Chronological (session.tripsOf ends)) (d : Direction) :
    Chronological (session.tripsOf (session.extendEnd ends d)) := by
  rw [extendEnd]
  cases href : (ends d).reference with
  | none => rwa [extend_none href, Function.update_eq_self]
  | some reference =>
    cases hpage : session.page (session.params ++ [referenceParam d reference]) with
    | error e => rwa [extend_error href hpage, Function.update_eq_self]
    | ok page =>
      rw [extend_ok href hpage, tripsOf_update, ← absorb_tripsOf h]
      exact Pager.absorb_chronological _ _

/-- The pager whose end was extended by a page. -/
theorem pagerOf_update (h : Chronological (session.tripsOf ends))
    (page : Client.JourneyPage) :
    session.pagerOf (Function.update ends d ⟨page.reference d,
        d.attach (ends d).trips (session.added d (ends d) page.trips)⟩) =
      { context :=
          { ((session.tokenOf ends).advance d page.earlierRef page.laterRef).toContext with
            window := unite (ofTrips (beyond (ofTrips (session.tripsOf ends)) d page.trips))
              (ofTrips (session.tripsOf ends)) }
        trips := Pager.absorb (session.tripsOf ends)
          (beyond (ofTrips (session.tripsOf ends)) d page.trips) } := by
  rw [pagerOf, tripsOf_update, tokenOf_update, ← absorb_tripsOf h,
    DepartureWindow.unite_ofTrips, Pager.ofTrips_absorb]

theorem extendBy_same (session : Session) (ends : Direction → SessionEnd) (d : Direction)
    (ds : List Direction) :
    session.extendBy d ((d :: ds).count d) (ends d) =
      ((session.extend d (ends d)).1 ::
          (session.extendBy d (ds.count d) (session.extendEnd ends d d)).1,
        (session.extendBy d (ds.count d) (session.extendEnd ends d d)).2) := by
  rw [List.count_cons_self, extendBy, extendEnd, Function.update_self]

theorem extendBy_other (session : Session) (ends : Direction → SessionEnd) {d d' : Direction}
    (h : d ≠ d') (ds : List Direction) :
    session.extendBy d' ((d :: ds).count d') (ends d') =
      session.extendBy d' (ds.count d') (session.extendEnd ends d d') := by
  rw [List.count_cons_of_ne h, extendEnd, Function.update_of_ne h.symm]

theorem extendBy_end (session : Session) (ends : Direction → SessionEnd) (d d' : Direction)
    (ds : List Direction) :
    (session.extendBy d' ((d :: ds).count d') (ends d')).2 =
      (session.extendBy d' (ds.count d') (session.extendEnd ends d d')).2 := by
  by_cases hd : d = d'
  · subst hd
    rw [extendBy_same]
  · rw [extendBy_other session ends hd]

end Session

end Transit.Hafas
