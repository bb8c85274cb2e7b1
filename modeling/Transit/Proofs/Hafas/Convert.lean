import Transit.Hafas.Convert
import Transit.Proofs.Trip

/-! # What is made of the records of a backend

Whatever can be read from a record keeps the rules of what it is read as. A trip of the backend is
built from legs whose stops are where their records say, so it is well formed and all its locations
fit.
-/
namespace Transit.Hafas

namespace RawLocation

variable {raw : RawLocation} {l : Location}

theorem type?_ne_any (raw : RawLocation) : raw.type? ≠ some .any := by
  rw [type?]
  split
  · exact nofun
  · exact nofun
  · split
    · exact nofun
    · split <;> exact nofun
  · split <;> exact nofun

/-- A location that is read from a record fits its type, and is not one that is only named. -/
theorem fits_of_toLocation? (h : raw.toLocation? = some l) : l.Fits ∧ l.kind ≠ .any := by
  obtain ⟨type, htype, hbuild⟩ := Option.bind_eq_some_iff.mp h
  obtain ⟨rfl, hfits⟩ := Location.build_eq_ok (eq_ok_of_toOption hbuild)
  refine ⟨hfits, ?_⟩
  rintro rfl
  exact raw.type?_ne_any htype

end RawLocation

variable {s : Stop} {index : Nat}

theorem RawStopover.fits_of_toStop? {raw : RawStopover} (h : raw.toStop? index = some s) :
    s.location.Fits := by
  obtain ⟨location, hlocation, hstop⟩ := Option.bind_eq_some_iff.mp h
  obtain rfl := Option.some.inj hstop
  exact (RawLocation.fits_of_toLocation? hlocation).1

theorem fits_of_stopOf? {j : Json} (h : stopOf? j index = some s) : s.location.Fits := by
  obtain ⟨raw, -, hstop⟩ := Option.bind_eq_some_iff.mp h
  exact raw.fits_of_toStop? hstop

theorem fits_of_mem_stopsFrom {stopovers : List Json} (h : s ∈ stopsFrom index stopovers) :
    s.location.Fits := by
  fun_induction stopsFrom index stopovers with
  | case1 => cases h
  | case2 index j rest stop hstop ih =>
    rcases List.mem_cons.mp h with rfl | hrest
    · exact fits_of_stopOf? hstop
    · exact ih hrest
  | case3 index j rest hnone ih => exact ih h

namespace RawLeg

variable {raw : RawLeg} {origin destination : Location}

/-- The leg between two places. -/
def between? (raw : RawLeg) (origin destination : Location) : Option Leg :=
  if raw.isOnOnesOwn then (raw.individual? origin destination).map .individual
  else (raw.ride? origin destination).map .ride

theorem toLeg?_eq (raw : RawLeg) :
    raw.toLeg? = (raw.origin.bind RawLocation.toLocation?).bind fun origin =>
      (raw.destination.bind RawLocation.toLocation?).bind (raw.between? origin) := by
  simp only [toLeg?, Option.bind_eq_bind, Option.bind_assoc]
  rfl

theorem between?_eq_some {l : Leg} (h : raw.between? origin destination = some l) :
    (raw.isOnOnesOwn = true ∧
      ∃ leg, raw.individual? origin destination = some leg ∧ .individual leg = l) ∨
    ¬raw.isOnOnesOwn = true ∧ ∃ leg, raw.ride? origin destination = some leg ∧ .ride leg = l := by
  rw [between?] at h
  split at h
  · rename_i hown
    exact .inl ⟨hown, Option.map_eq_some_iff.mp h⟩
  · rename_i hown
    exact .inr ⟨hown, Option.map_eq_some_iff.mp h⟩

theorem fits_of_individual? {l : IndividualLeg} (ho : origin.Fits) (hd : destination.Fits)
    (h : raw.individual? origin destination = some l) : ∀ s ∈ l.stops, s.location.Fits := by
  obtain ⟨departure, -, h⟩ := Option.bind_eq_some_iff.mp h
  obtain ⟨arrival, -, h⟩ := Option.bind_eq_some_iff.mp h
  obtain rfl := Option.some.inj h
  simp [IndividualLeg.stops, IndividualLeg.between, ho, hd]

theorem fits_of_ride? {l : PublicLeg} (ho : origin.Fits) (hd : destination.Fits)
    (h : raw.ride? origin destination = some l) : ∀ s ∈ l.stops, s.location.Fits := by
  obtain ⟨leg, hleg, h⟩ := Option.bind_eq_some_iff.mp h
  obtain rfl := Option.some.inj h
  obtain ⟨hdeparture, harrival⟩ := PublicLeg.build_eq_ok (eq_ok_of_toOption hleg)
  simp only [PublicLeg.stops, PublicLeg.withIntermediateStops, List.forall_mem_cons,
    List.mem_mergeSort, hdeparture, harrival]
  exact ⟨ho, hd, fun s hs => fits_of_mem_stopsFrom hs⟩

/-- Every stop of a leg is one of its ends, or one of the stopovers. -/
theorem fits_of_toLeg? {l : Leg} (h : raw.toLeg? = some l) : l.Fits := by
  rw [toLeg?_eq] at h
  obtain ⟨origin, horigin, h⟩ := Option.bind_eq_some_iff.mp h
  obtain ⟨destination, hdestination, h⟩ := Option.bind_eq_some_iff.mp h
  obtain ⟨rawOrigin, -, horigin⟩ := Option.bind_eq_some_iff.mp horigin
  obtain ⟨rawDestination, -, hdestination⟩ := Option.bind_eq_some_iff.mp hdestination
  have ho := (RawLocation.fits_of_toLocation? horigin).1
  have hd := (RawLocation.fits_of_toLocation? hdestination).1
  rcases between?_eq_some h with ⟨-, leg, hleg, rfl⟩ | ⟨-, leg, hleg, rfl⟩
  · exact fits_of_individual? ho hd hleg
  · exact fits_of_ride? ho hd hleg

end RawLeg

variable {t : Trip}

theorem RawJourney.of_toTrip? {raw : RawJourney} (h : raw.toTrip? = some t) :
    t.WellFormed ∧ ∀ l ∈ t.legs, l.Fits := by
  obtain ⟨legs, hlegs, h⟩ := Option.bind_eq_some_iff.mp h
  obtain ⟨rfl, hwell⟩ := Trip.build_eq_ok (eq_ok_of_toOption h)
  refine ⟨hwell, fun l hl => ?_⟩
  obtain ⟨rawLeg, -, hread⟩ := Json.exists_of_readAll hlegs l hl
  exact RawLeg.fits_of_toLeg? hread

theorem of_tripOf? {j : Json} (h : tripOf? j = some t) : t.WellFormed ∧ ∀ l ∈ t.legs, l.Fits := by
  obtain ⟨raw, -, htrip⟩ := Option.bind_eq_some_iff.mp h
  exact RawJourney.of_toTrip? htrip

end Transit.Hafas
