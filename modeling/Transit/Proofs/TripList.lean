import Transit.Pager
import Transit.Proofs.StableSort
import Transit.Proofs.Window

/-! # Lists of trips in order of departure

Taking in page after page comes to taking in all at once, and a page that departs beyond a list is
attached to one of its ends.
-/
namespace Transit

open StableSort
open DepartureWindow (ofTrips)

abbrev Chronological (trips : List Trip) : Prop := SortedBy Trip.firstDeparture trips

theorem Trip.sort_perm (trips : List Trip) : (Trip.sort trips).Perm trips := sortBy_perm trips

theorem Trip.sort_nil : Trip.sort [] = [] := List.mergeSort_nil

theorem Trip.sort_chronological (trips : List Trip) : Chronological (Trip.sort trips) :=
  sortBy_sorted trips

namespace Direction

/-- Puts trips behind a list, or before it. -/
def attach (d : Direction) (known new : List Trip) : List Trip :=
  match d with
  | .later => known ++ new
  | .earlier => new ++ known

@[simp] theorem length_attach (d : Direction) (known new : List Trip) :
    (d.attach known new).length = known.length + new.length := by
  cases d with
  | later => exact List.length_append
  | earlier => rw [attach, List.length_append, Nat.add_comm]

theorem Beyond.firstDeparture_ne {d : Direction} {t u : Trip} (h : d.Beyond t u) :
    t.firstDeparture ≠ u.firstDeparture := by
  cases d with
  | later => exact (ne_of_lt h).symm
  | earlier => exact ne_of_lt h

end Direction

namespace Pager

theorem absorb_chronological (known page : List Trip) : Chronological (absorb known page) :=
  Trip.sort_chronological _

/-- What was listed stays listed, in its order. -/
theorem sublist_absorb {known : List Trip} (h : Chronological known) (page : List Trip) :
    known.Sublist (absorb known page) := by
  apply sublist_sortBy h
  rw [addNew_eq]
  exact List.sublist_append_left known _

theorem departures_absorb (known page : List Trip) :
    departures (absorb known page) = departures (known ++ page) := by
  rw [absorb, departures_perm (Trip.sort_perm _), departures_addNew]

/-- The order of the known trips does not matter. -/
theorem absorb_sort (known page : List Trip) :
    absorb (Trip.sort known) page = absorb known page := by
  have hnovel : novel (Trip.sort known) page = novel known page :=
    novel_congr page fun t => (Trip.sort_perm known).contains_eq
  rw [absorb, absorb, addNew_eq, addNew_eq, hnovel]
  exact sortBy_sortBy_append known _

/-- A page may be taken in after others or together with them. -/
theorem absorb_distinct (a b : List Trip) :
    absorb (Trip.sort (distinct a)) b = Trip.sort (distinct (a ++ b)) := by
  rw [absorb_sort, absorb, distinct, distinct, addNew_append]

theorem contains_eq_false_of_beyond {d : Direction} {known : List Trip} {t : Trip}
    (h : ∀ u ∈ known, d.Beyond t u) : known.contains t = false := by
  rw [Bool.eq_false_iff]
  intro hknown
  obtain ⟨u, hu, hsame⟩ := List.contains_iff_exists_mem_beq.mp hknown
  exact (h u hu).firstDeparture_ne (Trip.firstDeparture_eq_of_beq hsame)

/-- A page beyond the list adds each of its trips once, all of them at one end. -/
theorem absorb_beyond {d : Direction} {known page : List Trip} (hk : Chronological known)
    (h : ∀ t ∈ page, ∀ u ∈ known, d.Beyond t u) :
    absorb known page = d.attach known (Trip.sort (distinct page)) := by
  have hnew : addNew known page = known ++ distinct page :=
    addNew_of_disjoint fun t ht => contains_eq_false_of_beyond (h t ht)
  have hd : ∀ t ∈ distinct page, ∀ u ∈ known, d.Beyond t u :=
    fun t ht => h t ((distinct_sublist page).mem ht)
  rw [absorb, hnew]
  cases d with
  | later => exact sortBy_append_of_lt hk fun u hu t ht => hd t ht u hu
  | earlier => exact sortBy_append_of_gt hk hd

/-- Of a page, what departs beyond the window of the list is attached to the list. -/
theorem absorb_window {d : Direction} {known : List Trip} (hk : Chronological known)
    (page : List Trip) :
    absorb known (beyond (ofTrips known) d page) =
      d.attach known (Trip.sort (distinct (beyond (ofTrips known) d page))) := by
  apply absorb_beyond hk
  intro t ht
  rw [beyond_ofTrips, List.mem_filter, decide_eq_true_eq] at ht
  exact ht.2

theorem ofTrips_absorb (known page : List Trip) :
    ofTrips (absorb known page) = ofTrips (known ++ page) :=
  DepartureWindow.ofTrips_congr (departures_absorb known page)

end Pager

end Transit
