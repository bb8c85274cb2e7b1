import Transit.Trip

/-! # What makes places, stops, legs and trips the same

Two values are the same when their canonical forms are equal. The canonical form of a location
drops what its comparison does not look at; the other forms are built from it. So sameness is an
equivalence, and the same trips depart and arrive at the same time.
-/
namespace Transit

section Kernel

variable {α β : Type} [BEq α] {f : α → β} (hf : ∀ a b : α, (a == b) = true ↔ f a = f b)

include hf

theorem equivBEq_of_kernel : EquivBEq α where
  rfl {a} := (hf a a).mpr rfl
  symm {a b} h := (hf b a).mpr ((hf a b).mp h).symm
  trans {a b c} hab hbc := (hf a c).mpr (((hf a b).mp hab).trans ((hf b c).mp hbc))

theorem list_beq_iff (l m : List α) : (l == m) = true ↔ l.map f = m.map f := by
  induction l generalizing m with
  | nil => cases m <;> simp
  | cons a l ih =>
    cases m with
    | nil => simp
    | cons b m => simp [hf, ih]

end Kernel

/-- The type and the id, or without id the type, the coordinate and the name. -/
def Location.canonical (l : Location) : Location :=
  match l.id with
  | some id => ⟨l.kind, some id, none, none, none⟩
  | none => ⟨l.kind, none, l.coordinate, none, l.name⟩

def Stop.canonical (s : Stop) : Stop := { s with location := s.location.canonical }

def PublicLeg.canonical (l : PublicLeg) : PublicLeg :=
  { l with
    departureStop := l.departureStop.canonical
    arrivalStop := l.arrivalStop.canonical
    intermediateStops := l.intermediateStops.map Stop.canonical }

def IndividualLeg.canonical (l : IndividualLeg) : IndividualLeg :=
  { l with
    departureStop := l.departureStop.canonical
    arrivalStop := l.arrivalStop.canonical }

def Leg.canonical : Leg → Leg
  | .ride l => .ride l.canonical
  | .individual l => .individual l.canonical

theorem Location.beq_iff (a b : Location) : (a == b) = true ↔ a.canonical = b.canonical := by
  obtain ⟨_, ida, _, _, _⟩ := a
  obtain ⟨_, idb, _, _, _⟩ := b
  change Location.same _ _ = true ↔ _
  cases ida <;> cases idb <;> simp [Location.same, Location.canonical]

theorem Stop.beq_iff (a b : Stop) : (a == b) = true ↔ a.canonical = b.canonical := by
  cases a
  cases b
  change instBEqStop.beq _ _ = true ↔ _
  simp [instBEqStop.beq, Stop.canonical, Location.beq_iff]

theorem PublicLeg.beq_iff (a b : PublicLeg) : (a == b) = true ↔ a.canonical = b.canonical := by
  cases a
  cases b
  change instBEqPublicLeg.beq _ _ = true ↔ _
  simp [instBEqPublicLeg.beq, PublicLeg.canonical, Stop.beq_iff, list_beq_iff Stop.beq_iff]

theorem IndividualLeg.beq_iff (a b : IndividualLeg) :
    (a == b) = true ↔ a.canonical = b.canonical := by
  cases a
  cases b
  change instBEqIndividualLeg.beq _ _ = true ↔ _
  simp [instBEqIndividualLeg.beq, IndividualLeg.canonical, Stop.beq_iff]

theorem Leg.beq_iff (a b : Leg) : (a == b) = true ↔ a.canonical = b.canonical := by
  change instBEqLeg.beq a b = true ↔ _
  cases a <;> cases b <;>
    simp [instBEqLeg.beq, Leg.canonical, PublicLeg.beq_iff, IndividualLeg.beq_iff]

theorem Trip.beq_iff (a b : Trip) :
    (a == b) = true ↔ a.legs.map Leg.canonical = b.legs.map Leg.canonical := by
  change (a.legs == b.legs) = true ↔ _
  exact list_beq_iff Leg.beq_iff a.legs b.legs

instance : EquivBEq Location := equivBEq_of_kernel Location.beq_iff

instance : EquivBEq Trip := equivBEq_of_kernel Trip.beq_iff

@[simp] theorem Leg.departureTime_canonical (l : Leg) :
    l.canonical.departureTime = l.departureTime := by cases l <;> rfl

/-- The first departure is part of what makes a trip the same. -/
theorem Trip.firstDeparture_eq_of_beq {a b : Trip} (h : (a == b) = true) :
    a.firstDeparture = b.firstDeparture := by
  have hlegs := (Trip.beq_iff a b).mp h
  have hfirst : a.legs.head?.bind Leg.departureTime = b.legs.head?.bind Leg.departureTime := by
    have hhead := congrArg (fun l => l.head?.bind Leg.departureTime) hlegs
    simpa [List.head?_map, Option.bind_map, Function.comp_def] using hhead
  rw [a.departs, b.departs] at hfirst
  exact Option.some.inj hfirst

end Transit
