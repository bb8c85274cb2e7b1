import Transit.Hafas.Convert
import Transit.Proofs.Json.Alike
import Transit.Proofs.Trip

/-! # Journeys leg by leg

A journey holds values for its legs, each of which is read by itself. There is a trip of it if all
legs can be read and belong together. So two journeys with legs that correspond come to trips with
legs that correspond, or neither of them comes to a trip.
-/
namespace Transit

/-- Legs between the same places, each of which has a time if the other has it. -/
structure Leg.Parallel (l l' : Leg) : Prop where
  departure : l.departure = l'.departure
  arrival : l.arrival = l'.arrival
  departs : l.departureTime.isSome = l'.departureTime.isSome
  arrives : l.arrivalTime.isSome = l'.arrivalTime.isSome

namespace Trip

variable {legs legs' : List Leg}

theorem timed_of_parallel (h : List.Forall₂ Leg.Parallel legs legs') :
    (∀ l ∈ legs, l.departureTime.isSome ∧ l.arrivalTime.isSome) ↔
      ∀ l ∈ legs', l.departureTime.isSome ∧ l.arrivalTime.isSome := by
  induction h with
  | nil => rfl
  | cons hends _ ih =>
    rw [List.forall_mem_cons, List.forall_mem_cons, hends.departs, hends.arrives, ih]

theorem connected_of_parallel (h : List.Forall₂ Leg.Parallel legs legs') :
    Connected legs ↔ Connected legs' := by
  rw [Connected, Connected]
  induction h with
  | nil => simp
  | cons hends hrest ih =>
    cases hrest with
    | nil => simp
    | cons hnext _ =>
      rw [List.isChain_cons_cons, List.isChain_cons_cons, hends.arrival, hnext.departure, ih]

/-- Whether legs make a trip depends on the places where they end and on whether they have times. -/
theorem build_rel {related : Leg → Leg → Prop} (h : List.Forall₂ related legs legs')
    (hparallel : ∀ l l', related l l' → l.Parallel l') (id : Option String) :
    Option.Rel (fun t t' : Trip => List.Forall₂ related t.legs t'.legs)
      (build id legs).toOption (build id legs').toOption := by
  have hends := h.imp hparallel
  have hbuild : (∃ t, build id legs = .ok t) ↔ ∃ t, build id legs' = .ok t := by
    rw [exists_build_iff, exists_build_iff, timed_of_parallel hends, connected_of_parallel hends]
    refine and_congr_left' (not_congr ?_)
    rw [← List.length_eq_zero_iff, ← List.length_eq_zero_iff, h.length_eq]
  cases ht : build id legs with
  | ok t =>
    obtain ⟨t', ht'⟩ := hbuild.mp ⟨t, ht⟩
    obtain ⟨rfl, -⟩ := build_eq_ok ht
    obtain ⟨rfl, -⟩ := build_eq_ok ht'
    rw [ht']
    exact .some h
  | error e =>
    cases ht' : build id legs' with
    | ok t' =>
      obtain ⟨t, hok⟩ := hbuild.mpr ⟨t', ht'⟩
      rw [ht] at hok
      cases hok
    | error e' => exact .none

end Trip

namespace Hafas

variable {j j' : Json}

def RawJourney.fieldNames : List String := ["legs", "refreshToken"]

/-- The values that stand for the legs of a journey. -/
def legsIn (j : Json) : Option (List Json) :=
  (j.record? RawJourney.fieldNames).bind (·.required "legs" (Json.list? some))

def tokenIn (j : Json) : Option (Option String) :=
  (j.record? RawJourney.fieldNames).bind (·.optional "refreshToken" Json.string?)

def legOf? (j : Json) : Option Leg := (RawLeg.ofJson? j).bind RawLeg.toLeg?

theorem readAll_legOf? (items : List Json) :
    Json.readAll legOf? items =
      (Json.readAll RawLeg.ofJson? items).bind (Json.readAll RawLeg.toLeg?) :=
  Json.readAll_bind RawLeg.ofJson? RawLeg.toLeg? items

theorem rawLegs_eq (j : Json) :
    (j.record? RawJourney.fieldNames).bind (·.required "legs" (Json.list? RawLeg.ofJson?)) =
      (legsIn j).bind (Json.readAll RawLeg.ofJson?) := by
  rw [legsIn, Option.bind_assoc]
  congr 1
  funext r
  rw [Json.Record.required, Json.Record.required, Option.bind_assoc]
  congr 1
  funext v
  cases v with
  | arr items => rw [Json.list?, Json.list?, Json.readAll_some, Option.bind_some]
  | _ => rfl

/-- A trip is made of the token and of the legs, which are read one by one. -/
theorem tripOf?_eq (j : Json) :
    tripOf? j = (legsIn j).bind fun items => (tokenIn j).bind fun token =>
      (Json.readAll legOf? items).bind fun legs => (Trip.build token legs).toOption := by
  have hlegs := rawLegs_eq j
  simp only [tripOf?, RawJourney.ofJson?, legsIn, tokenIn, readAll_legOf?,
    RawJourney.fieldNames] at hlegs ⊢
  cases hrecord : j.record? ["legs", "refreshToken"] with
  | none => rfl
  | some r =>
    rw [hrecord] at hlegs
    simp only [Option.bind_some, Option.bind_eq_bind] at hlegs ⊢
    rw [hlegs]
    cases r.required "legs" (Json.list? some) with
    | none => rfl
    | some items =>
      cases r.optional "refreshToken" Json.string? with
      | none => simp
      | some token => simp [RawJourney.toTrip?, Option.bind_assoc]

/-- The legs of a trip are those of its journey, in their order. -/
theorem legs_of_tripOf? {t : Trip} (h : tripOf? j = some t) :
    ∃ items, legsIn j = some items ∧ Json.readAll legOf? items = some t.legs := by
  rw [tripOf?_eq] at h
  obtain ⟨items, hitems, h⟩ := Option.bind_eq_some_iff.mp h
  obtain ⟨token, -, h⟩ := Option.bind_eq_some_iff.mp h
  obtain ⟨legs, hlegs, h⟩ := Option.bind_eq_some_iff.mp h
  obtain ⟨rfl, -⟩ := Trip.build_eq_ok (eq_ok_of_toOption h)
  exact ⟨items, hitems, hlegs⟩

/-- One leg that cannot be read is enough to lose the trip. -/
theorem tripOf?_eq_none {items : List Json} {item : Json} (hitems : legsIn j = some items)
    (hitem : item ∈ items) (h : legOf? item = none) : tripOf? j = none := by
  rw [tripOf?_eq, hitems, Option.bind_some, Json.readAll_eq_none hitem h]
  cases tokenIn j <;> rfl

/-- Journeys whose legs vary, and which are the same otherwise. -/
inductive LegsVary (vary : Json → Json → Prop) : Json.Agreement
  | legs {items items' : List Json} (varied : List.Forall₂ vary items items') :
    LegsVary vary "legs" (some (.arr items)) (some (.arr items'))
  | same (name : String) (v : Option Json) : LegsVary vary name v v

variable {vary : Json → Json → Prop} {related : Leg → Leg → Prop}

theorem LegsVary.eq_of_ne {name : String} {v v' : Option Json} (h : LegsVary vary name v v')
    (hname : name ≠ "legs") : v = v' := by
  cases h with
  | legs => exact absurd rfl hname
  | same => rfl

theorem tokenIn_of_legsVary (h : Json.Alike RawJourney.fieldNames (LegsVary vary) j j') :
    tokenIn j = tokenIn j' := by
  rw [Json.Alike] at h
  rw [tokenIn, tokenIn]
  generalize j.record? RawJourney.fieldNames = record at h ⊢
  generalize j'.record? RawJourney.fieldNames = record' at h ⊢
  cases h with
  | none => rfl
  | some h =>
    have htoken := (h.fields "refreshToken" (by decide)).eq_of_ne (by decide)
    exact Json.Record.optional_congr h.form htoken Json.string?

theorem legsIn_of_legsVary (hvary : ∀ item, vary item item)
    (h : Json.Alike RawJourney.fieldNames (LegsVary vary) j j') :
    Option.Rel (List.Forall₂ vary) (legsIn j) (legsIn j') := by
  refine Json.rel_bind h.records fun r r' ⟨_, _, hagree⟩ => ?_
  have hlegs := hagree.fields "legs" (by decide)
  rw [Json.Record.required, Json.Record.required]
  generalize r.get? "legs" = v at hlegs ⊢
  generalize r'.get? "legs" = v' at hlegs ⊢
  cases hlegs with
  | legs varied =>
    rw [Option.bind_some, Option.bind_some, Json.list?, Json.list?, Json.readAll_some,
      Json.readAll_some]
    exact .some varied
  | same => exact Json.rel_of_eq rfl fun items => List.forall₂_same.mpr fun item _ => hvary item

/-- What is known of all legs of a journey is known of each of them. -/
theorem legsIn_rel_and {p q : Json → Prop}
    (h : Option.Rel (List.Forall₂ vary) (legsIn j) (legsIn j'))
    (hp : ∀ items, legsIn j = some items → ∀ item ∈ items, p item)
    (hq : ∀ items, legsIn j' = some items → ∀ item ∈ items, q item) :
    Option.Rel (List.Forall₂ fun item item' => p item ∧ q item' ∧ vary item item') (legsIn j)
      (legsIn j') := by
  obtain ⟨hsome, hitems⟩ := Json.rel_iff.mp h
  refine Json.rel_iff.mpr ⟨hsome, fun items items' hj hj' => ?_⟩
  have hleft := (List.forall₂_and_left _ _).mpr ⟨hp items hj, hitems items items' hj hj'⟩
  have hboth := (List.forall₂_and_left _ _).mpr ⟨hq items' hj', hleft.flip⟩
  exact hboth.flip.imp fun item item' ⟨hitem', hitem, hvary⟩ => ⟨hitem, hitem', hvary⟩

/-- Journeys with legs that correspond come to trips with legs that correspond, or to none. -/
theorem tripOf?_rel (hlegs : Option.Rel (List.Forall₂ vary) (legsIn j) (legsIn j'))
    (htoken : tokenIn j = tokenIn j')
    (hread : ∀ item item', vary item item' → Option.Rel related (legOf? item) (legOf? item'))
    (hparallel : ∀ l l', related l l' → l.Parallel l') :
    Option.Rel (fun t t' : Trip => List.Forall₂ related t.legs t'.legs) (tripOf? j)
      (tripOf? j') := by
  rw [tripOf?_eq, tripOf?_eq]
  refine Json.rel_bind hlegs fun items items' hitems => ?_
  refine Json.rel_bind_of_eq htoken fun token => ?_
  refine Json.rel_bind (Json.readAll_rel hitems hread) fun legs legs' hmade => ?_
  exact Trip.build_rel hmade hparallel token

end Hafas

end Transit
