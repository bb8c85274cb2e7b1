import Mathlib.Tactic.Linarith
import Transit.Proofs.TripList

/-! # Sameness is fit to drop repetitions by

The same locations have the same hashes, whatever function makes the hashes, so a hash set finds the
repetitions that comparing all pairs finds. The same trips tell the same, so it makes no difference
to windows and to the order of departures which of them is dropped.
-/
namespace Transit

section HashSet

variable {α : Type} [BEq α] [Hashable α]

/-- The elements that are not in a hash set of those before them. -/
def unseen (seen : Std.HashSet α) : List α → List α
  | [] => []
  | a :: rest => if seen.contains a then unseen seen rest else a :: unseen (seen.insert a) rest

theorem unseen_eq_novel [EquivBEq α] [LawfulHashable α] {seen : Std.HashSet α} {known : List α}
    (h : ∀ a, seen.contains a = known.contains a) (as : List α) :
    unseen seen as = novel known as := by
  induction as generalizing seen known with
  | nil => rfl
  | cons a rest ih =>
    have hnext : ∀ b, (seen.insert a).contains b = (known ++ [a]).contains b := by
      intro b
      rw [Std.HashSet.contains_insert, List.contains_append, h, Bool.or_comm, List.contains_cons,
        List.contains_nil, Bool.or_false, BEq.comm]
    rw [unseen, novel, h a, ih h, ih hnext]

theorem unseen_empty [EquivBEq α] [LawfulHashable α] (as : List α) :
    unseen ∅ as = as.eraseDups := by
  rw [← distinct_eq_eraseDups, distinct, addNew_eq, List.nil_append]
  exact unseen_eq_novel (fun a => Std.HashSet.contains_empty) as

end HashSet

namespace Location

/-- Locations are the same exactly when their hashes are made of the same. -/
theorem beq_iff_key (a b : Location) : (a == b) = true ↔ a.key = b.key := by
  obtain ⟨_, ida, _, _, _⟩ := a
  obtain ⟨_, idb, _, _, _⟩ := b
  change same _ _ = true ↔ _
  cases ida <;> cases idb <;> simp [same, key]

/-- Hashes of locations, from a function that makes a hash of what it is given. -/
@[reducible] def hashing (hash : Key → UInt64) : Hashable Location := ⟨fun l => hash l.key⟩

/-- The first occurrences of locations, as a hash set tells them. -/
def firsts (hash : Key → UInt64) (ls : List Location) : List Location :=
  @unseen Location _ (hashing hash) ∅ ls

theorem firsts_eq (hash : Key → UInt64) (ls : List Location) : firsts hash ls = ls.eraseDups := by
  let _ := hashing hash
  have : LawfulHashable Location := ⟨fun a b h => congrArg hash ((beq_iff_key a b).mp h)⟩
  exact unseen_empty ls

end Location

theorem equivalence_beq {α : Type} [BEq α] [EquivBEq α] :
    Equivalence fun a b : α => (a == b) = true :=
  ⟨fun _ => BEq.rfl, BEq.symm, BEq.trans⟩

@[simp] theorem Leg.arrivalTime_canonical (l : Leg) : l.canonical.arrivalTime = l.arrivalTime := by
  cases l <;> rfl

@[simp] theorem Leg.ride?_canonical (l : Leg) :
    l.canonical.ride? = l.ride?.map PublicLeg.canonical := by cases l <;> rfl

@[simp] theorem PublicLeg.isCancelled_canonical (l : PublicLeg) :
    l.canonical.isCancelled = l.isCancelled := rfl

@[simp] theorem PublicLeg.line_canonical (l : PublicLeg) : l.canonical.line = l.line := rfl

namespace Trip

open DepartureWindow (ofTrips)

variable {a b : Trip}

theorem lastArrival_eq_of_beq (h : (a == b) = true) : a.lastArrival = b.lastArrival := by
  have hlegs := (beq_iff a b).mp h
  have hlast : a.legs.getLast?.bind Leg.arrivalTime = b.legs.getLast?.bind Leg.arrivalTime := by
    have htail := congrArg (fun l => l.getLast?.bind Leg.arrivalTime) hlegs
    simpa [List.getLast?_map, Option.bind_map, Function.comp_def] using htail
  rw [a.arrives, b.arrives] at hlast
  exact Option.some.inj hlast

theorem canonical_rides (t : Trip) :
    t.rides.map PublicLeg.canonical = (t.legs.map Leg.canonical).filterMap Leg.ride? := by
  have hride : Leg.ride? ∘ Leg.canonical = fun l => l.ride?.map PublicLeg.canonical :=
    funext Leg.ride?_canonical
  rw [rides, List.map_filterMap, List.filterMap_map, hride]

/-- The rides of the same trips are the same in all that their comparison looks at. -/
theorem map_rides_eq_of_beq {β : Type} (h : (a == b) = true) {f : PublicLeg → β}
    (hf : ∀ l, f l.canonical = f l) : a.rides.map f = b.rides.map f := by
  have hrides : a.rides.map PublicLeg.canonical = b.rides.map PublicLeg.canonical := by
    rw [canonical_rides, canonical_rides, (beq_iff a b).mp h]
  have hmap := congrArg (List.map f) hrides
  simpa [Function.comp_def, hf] using hmap

/-- Two trips tell the same to whoever looks at their times, their rides or their text. -/
structure TellSame (a b : Trip) : Prop where
  firstDeparture : a.firstDeparture = b.firstDeparture
  lastArrival : a.lastArrival = b.lastArrival
  duration : a.duration = b.duration
  changes : a.changes = b.changes
  isTravelable : a.isTravelable = b.isTravelable
  text : a.text = b.text

theorem tellSame_of_beq (h : (a == b) = true) : TellSame a b := by
  have hfirst := firstDeparture_eq_of_beq h
  have hlast := lastArrival_eq_of_beq h
  have hduration : a.duration = b.duration := by rw [duration, duration, hfirst, hlast]
  have hchanges : a.changes = b.changes := by
    have hlines := map_rides_eq_of_beq h PublicLeg.line_canonical
    have hcount := congrArg List.length hlines
    rw [List.length_map, List.length_map] at hcount
    rw [changes, changes, hcount]
  have htravelable : a.isTravelable = b.isTravelable := by
    have hcancelled := map_rides_eq_of_beq h PublicLeg.isCancelled_canonical
    have hany := congrArg (fun cancelled => cancelled.any (· = true)) hcancelled
    simpa [isTravelable, List.any_map, Function.comp_def] using hany
  have hlines : a.rides.map (·.line.text) = b.rides.map (·.line.text) :=
    map_rides_eq_of_beq h fun l => rfl
  refine ⟨hfirst, hlast, hduration, hchanges, htravelable, ?_⟩
  rw [text, text, hfirst, hlast, hduration, hchanges, hlines]

/-- Whether one trip departs no later than another can be told from their canonical legs. -/
def startsNoLater (a b : List Leg) : Bool :=
  match a.head?.bind Leg.departureTime, b.head?.bind Leg.departureTime with
  | some s, some t => s ≤ t
  | _, _ => false

theorem departsNoLater_eq (a b : Trip) :
    departsNoLater a b =
      startsNoLater (a.legs.map Leg.canonical) (b.legs.map Leg.canonical) := by
  have hfirst : ∀ t : Trip, (t.legs.map Leg.canonical).head?.bind Leg.departureTime =
      some t.firstDeparture := by
    intro t
    rw [← t.departs]
    simp [List.head?_map, Option.bind_map]
  rw [startsNoLater, hfirst a, hfirst b, departsNoLater]

/-- Lists of the same trips stay lists of the same trips when they are sorted. -/
theorem sort_beq_of_beq {l m : List Trip} (h : (l == m) = true) : (sort l == sort m) = true := by
  rw [list_beq_iff beq_iff] at *
  have hsort : ∀ trips : List Trip, (sort trips).map (fun t => t.legs.map Leg.canonical) =
      (trips.map fun t => t.legs.map Leg.canonical).mergeSort startsNoLater :=
    fun trips => List.map_mergeSort fun a _ b _ => departsNoLater_eq a b
  rw [hsort, hsort, h]

/-- The departures in their order do not depend on the order in which the trips are listed. -/
theorem sort_departures_congr {l m : List Trip}
    (h : (l.map firstDeparture).Perm (m.map firstDeparture)) :
    (sort l).map firstDeparture = (sort m).map firstDeparture := by
  have hsorted : ∀ trips, ((sort trips).map firstDeparture).Pairwise (· ≤ ·) :=
    fun trips => List.pairwise_map.mpr (sort_chronological trips)
  have hperm : ((sort l).map firstDeparture).Perm ((sort m).map firstDeparture) :=
    ((sort_perm l).map _).trans (h.trans ((sort_perm m).map _).symm)
  exact hperm.eq_of_pairwise (fun s t _ _ => le_antisymm) (hsorted l) (hsorted m)

/-- Of two trips it makes no difference to windows and to the order of departures which of them is
dropped from a list, or which of them stands in it. -/
structure Interchangeable (a b : Trip) : Prop where
  isBefore : ∀ (w : DepartureWindow) (d : Direction), w.isBefore d a = w.isBefore d b
  window_first : ∀ before middle after : List Trip,
    ofTrips (before ++ (middle ++ b :: after)) = ofTrips (before ++ a :: (middle ++ b :: after))
  window_second : ∀ before middle after : List Trip,
    ofTrips (before ++ a :: (middle ++ after)) = ofTrips (before ++ a :: (middle ++ b :: after))
  departures : ∀ before middle after : List Trip,
    (sort (before ++ (middle ++ b :: after))).map firstDeparture =
      (sort (before ++ a :: (middle ++ after))).map firstDeparture
  sorted : ∀ before after : List Trip,
    (sort (before ++ a :: after) == sort (before ++ b :: after)) = true

theorem interchangeable_of_beq (h : (a == b) = true) : Interchangeable a b where
  isBefore w d := by
    have hfirst := firstDeparture_eq_of_beq h
    cases d with
    | later => rw [DepartureWindow.isBefore, DepartureWindow.isBefore, hfirst]
    | earlier => rw [DepartureWindow.isBefore, DepartureWindow.isBefore, hfirst]
  window_first before middle after := by
    apply DepartureWindow.ofTrips_congr
    simp [departures_cons, firstDeparture_eq_of_beq h]
  window_second before middle after := by
    apply DepartureWindow.ofTrips_congr
    simp [departures_cons, firstDeparture_eq_of_beq h]
  departures before middle after := by
    apply sort_departures_congr
    have hfirst := firstDeparture_eq_of_beq h
    simp only [List.map_append, List.map_cons, hfirst]
    exact List.Perm.append_left _ List.perm_middle
  sorted before after := by
    apply sort_beq_of_beq
    simp [list_beq_iff beq_iff, (beq_iff a b).mp h]

end Trip

/-- Sameness of locations is an equivalence that hashes respect, so that repetitions are the same
for a hash set and for a comparison of all pairs. Sameness of trips is an equivalence, and the same
trips tell the same and can be exchanged for one another. -/
theorem sameness_fits_deduplication :
    (Equivalence fun a b : Location => (a == b) = true) ∧
      (∀ a b : Location, (a == b) = true ↔ a.key = b.key) ∧
      (∀ hash ls, Location.firsts hash ls = ls.eraseDups) ∧
      (Equivalence fun a b : Trip => (a == b) = true) ∧
      ∀ a b : Trip, (a == b) = true → a.TellSame b ∧ a.Interchangeable b := by
  refine ⟨equivalence_beq, Location.beq_iff_key, Location.firsts_eq, equivalence_beq, ?_⟩
  intro a b h
  exact ⟨Trip.tellSame_of_beq h, Trip.interchangeable_of_beq h⟩

/-- A ride from a station of a given name. -/
def Trip.rideFrom (id name : String) : Trip where
  id
  legs := [.ride {
    line := { label := "S1" }
    departureStop :=
      { location := (Location.station "1").withName name
        plannedDeparture := some .least }
    arrivalStop := { location := .station "2", plannedArrival := some .least } }]
  firstDeparture := .least
  lastArrival := .least
  departs := rfl
  arrives := rfl

/-- Two names of one station make no difference to trips. -/
theorem renamed_station_fits_deduplication :
    let a := Trip.rideFrom "a" "Ostkreuz"
    let b := Trip.rideFrom "b" "Berlin Ostkreuz"
    (a == b) = true ∧ a.TellSame b ∧ a.Interchangeable b := by
  intro a b
  have hsame : (a == b) = true := by rfl
  exact ⟨hsame, sameness_fits_deduplication.2.2.2.2 a b hsame⟩

end Transit
