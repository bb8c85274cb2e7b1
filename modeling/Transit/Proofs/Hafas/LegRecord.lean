import Transit.Proofs.Hafas.Convert
import Transit.Proofs.Hafas.Journey

/-! # Records of legs

A record of a leg is read field by field. Of what is read, the ends and the times decide whether
there is a leg. The line, the stopovers, the geometry and the remarks do not, as long as they can be
read: a line only decides which of the times comes first.
-/
namespace Transit

namespace Leg

structure SameTimes (l l' : Leg) : Prop where
  departs : l.departureTime = l'.departureTime
  arrives : l.arrivalTime = l'.arrivalTime

/-- A leg without path and message. -/
def bare : Leg → Leg
  | .ride l => .ride { l with path := [], message := none }
  | .individual l => .individual { l with path := [] }

@[simp] theorem departureStop_bare (l : Leg) : l.bare.departureStop = l.departureStop := by
  cases l <;> rfl

@[simp] theorem arrivalStop_bare (l : Leg) : l.bare.arrivalStop = l.arrivalStop := by
  cases l <;> rfl

theorem parallel_of_bare {l l' : Leg} (h : l.bare = l'.bare) : l.Parallel l' := by
  have hdeparture : l.departureStop = l'.departureStop := by
    simpa using congrArg departureStop h
  have harrival : l.arrivalStop = l'.arrivalStop := by
    simpa using congrArg arrivalStop h
  constructor
  · rw [departure, departure, hdeparture]
  · rw [arrival, arrival, harrival]
  · rw [departureTime, departureTime, hdeparture]
  · rw [arrivalTime, arrivalTime, harrival]

end Leg

namespace Hafas.RawLeg

open Json (rel_bind rel_bind_of_eq)
open Json.Record (optional_congr defaulted_congr)

variable {j j' : Json} {r r' : Json.Record} {raw raw' : RawLeg}
  {lines : Option Json → Option Json → Prop} {stops : List Json → List Json → Prop}

/-- The names of the fields that have to be the same. -/
def steadyNames : List String :=
  fieldNames.filter (· ∉ ["line", "stopovers", "polyline", "remarks"])

/-- Records of legs whose lines and stopovers correspond. Geometry and remarks can be read from both
or from none. -/
structure Corresponds (lines : Option Json → Option Json → Prop)
    (stops : List Json → List Json → Prop) (r r' : Json.Record) : Prop where
  form : r.asList = r'.asList
  steady : ∀ name ∈ steadyNames, r.get? name = r'.get? name
  line : Option.Rel lines (r.optional "line" some) (r'.optional "line" some)
  stopovers : Option.Rel stops (r.defaulted "stopovers" [] (Json.list? some))
    (r'.defaulted "stopovers" [] (Json.list? some))
  polyline : Option.Rel (fun _ _ => True) (r.optional "polyline" RawPath.ofJson?)
    (r'.optional "polyline" RawPath.ofJson?)
  remarks : Option.Rel (fun _ _ => True) (r.defaulted "remarks" [] (Json.list? RawRemark.ofJson?))
    (r'.defaulted "remarks" [] (Json.list? RawRemark.ofJson?))

/-- The same as another leg, except for its line, stopovers, geometry and remarks. -/
inductive Varies (raw : RawLeg) : RawLeg → Prop
  | mk (line : Option Json) (stopovers : List Json) (polyline : Option RawPath)
    (remarks : List RawRemark) : Varies raw { raw with line, stopovers, polyline, remarks }

theorem ofJson?_rel
    (h : Option.Rel (Corresponds lines stops) (j.record? fieldNames) (j'.record? fieldNames)) :
    Option.Rel (fun raw raw' => Varies raw raw' ∧ lines raw.line raw'.line ∧
      stops raw.stopovers raw'.stopovers) (ofJson? j) (ofJson? j') := by
  rw [ofJson?, ofJson?]
  refine rel_bind h fun r r' h => ?_
  have hoptional : ∀ {α : Type} {name : String} (_ : name ∈ steadyNames) (read : Json → Option α),
      r.optional name read = r'.optional name read :=
    fun hname read => optional_congr h.form (h.steady _ hname) read
  have hdefaulted : ∀ {name : String} (_ : name ∈ steadyNames) (read : Json → Option Bool),
      r.defaulted name false read = r'.defaulted name false read :=
    fun hname read => defaulted_congr (h.steady _ hname) false read
  -- The fields in their order: the steady ones give the same, the others what corresponds.
  iterate 12 refine rel_bind_of_eq (hoptional (by decide) _) fun _ => ?_
  refine rel_bind h.line fun line line' hline => ?_
  refine rel_bind_of_eq (hoptional (by decide) _) fun _ => ?_
  iterate 2 refine rel_bind_of_eq (hdefaulted (by decide) _) fun _ => ?_
  refine rel_bind_of_eq (hoptional (by decide) _) fun _ => ?_
  refine rel_bind h.stopovers fun stopovers stopovers' hstopovers => ?_
  refine rel_bind h.polyline fun polyline polyline' _ => ?_
  refine rel_bind_of_eq (hdefaulted (by decide) _) fun _ => ?_
  refine rel_bind h.remarks fun remarks remarks' _ => ?_
  exact .some ⟨.mk line' stopovers' polyline' remarks', hline, hstopovers⟩

/-! ### What a leg needs -/

/-- When a leg starts. On one's own, what is known comes before the plan; on a ride it does so only
as a prediction. -/
def start (raw : RawLeg) : Option Instant :=
  if raw.isOnOnesOwn then raw.departure <|> raw.plannedDeparture
  else predicted raw.departure raw.departureDelay <|> (raw.plannedDeparture <|> raw.departure)

/-- When a leg ends. -/
def finish (raw : RawLeg) : Option Instant :=
  if raw.isOnOnesOwn then raw.arrival <|> raw.plannedArrival
  else predicted raw.arrival raw.arrivalDelay <|> (raw.plannedArrival <|> raw.arrival)

theorem isSome_start (raw : RawLeg) :
    raw.start.isSome = (raw.departure.isSome || raw.plannedDeparture.isSome) := by
  rw [start, predicted]
  split <;> cases raw.departure <;> cases raw.plannedDeparture <;> cases raw.departureDelay <;> rfl

theorem isSome_finish (raw : RawLeg) :
    raw.finish.isSome = (raw.arrival.isSome || raw.plannedArrival.isSome) := by
  rw [finish, predicted]
  split <;> cases raw.arrival <;> cases raw.plannedArrival <;> cases raw.arrivalDelay <;> rfl

/-- A leg is between its places, from when it starts to when it ends. -/
theorem ends_of_between? {origin destination : Location} {l : Leg}
    (h : raw.between? origin destination = some l) :
    l.departure = origin ∧ l.arrival = destination ∧ l.departureTime = raw.start ∧
      l.arrivalTime = raw.finish := by
  rw [start, finish]
  rcases between?_eq_some h with ⟨hown, leg, hleg, rfl⟩ | ⟨hown, leg, hleg, rfl⟩
  · rw [if_pos hown, if_pos hown]
    obtain ⟨departure, hdeparture, hleg⟩ := Option.bind_eq_some_iff.mp hleg
    obtain ⟨arrival, harrival, hleg⟩ := Option.bind_eq_some_iff.mp hleg
    obtain rfl := Option.some.inj hleg
    exact ⟨rfl, rfl, hdeparture.symm, harrival.symm⟩
  · rw [if_neg hown, if_neg hown]
    obtain ⟨ride, hride, hleg⟩ := Option.bind_eq_some_iff.mp hleg
    obtain rfl := Option.some.inj hleg
    obtain ⟨hdeparture, harrival⟩ := PublicLeg.build_eq_ok (eq_ok_of_toOption hride)
    simp [Leg.departure, Leg.arrival, Leg.departureTime, Leg.arrivalTime, Leg.departureStop,
      Leg.arrivalStop, PublicLeg.withIntermediateStops, hdeparture, harrival, Stop.departureTime,
      Stop.arrivalTime]

theorem isSome_between? (raw : RawLeg) (origin destination : Location) :
    (raw.between? origin destination).isSome = (raw.start.isSome && raw.finish.isSome) := by
  rw [between?, start, finish]
  split
  · rw [Option.isSome_map, individual?]
    cases raw.departure <|> raw.plannedDeparture with
    | none => rfl
    | some departure => cases raw.arrival <|> raw.plannedArrival <;> rfl
  · simp only [Option.isSome_map, ride?, Option.bind_eq_bind, Option.isSome_bind,
      Option.isSome_some]
    rw [Option.any_true, PublicLeg.isSome_build]
    rfl

/-- Legs that vary are between the same places, or there are none. Whether there is a line decides
which of their times come first. -/
theorem Varies.toLeg?_rel (h : Varies raw raw') :
    Option.Rel (fun l l' : Leg => l.Parallel l' ∧
      (raw.line.isSome = raw'.line.isSome → l.SameTimes l')) raw.toLeg? raw'.toLeg? := by
  cases h with
  | mk line stopovers polyline remarks =>
    rw [toLeg?_eq, toLeg?_eq]
    refine rel_bind_of_eq rfl fun origin => rel_bind_of_eq rfl fun destination => ?_
    refine Json.rel_iff.mpr ⟨?_, ?_⟩
    · rw [isSome_between?, isSome_between?, isSome_start, isSome_start, isSome_finish,
        isSome_finish]
    · intro l l' hl hl'
      obtain ⟨hdeparture, harrival, hstart, hfinish⟩ := ends_of_between? hl
      obtain ⟨hdeparture', harrival', hstart', hfinish'⟩ := ends_of_between? hl'
      refine ⟨⟨hdeparture.trans hdeparture'.symm, harrival.trans harrival'.symm, ?_, ?_⟩, ?_⟩
      · rw [hstart, hstart', isSome_start, isSome_start]
      · rw [hfinish, hfinish', isSome_finish, isSome_finish]
      · intro hline
        -- Of the line only its presence counts, so both times are read in the same order.
        have hown : isOnOnesOwn { raw with line, stopovers, polyline, remarks } =
            raw.isOnOnesOwn := by
          rw [isOnOnesOwn, isOnOnesOwn, ← Option.not_isSome, ← Option.not_isSome, hline]
        constructor
        · rw [hstart, hstart', start, start, hown]
        · rw [hfinish, hfinish', finish, finish, hown]

/-- Geometry and remarks show in the path and the message only. -/
theorem between?_bare (raw : RawLeg) (polyline : Option RawPath) (remarks : List RawRemark)
    (origin destination : Location) :
    Option.Rel (fun l l' : Leg => l.bare = l'.bare) (raw.between? origin destination)
      (between? { raw with polyline, remarks } origin destination) := by
  rw [between?, between?]
  change Option.Rel _ _ (if raw.isOnOnesOwn then _ else _)
  split
  · rw [individual?, individual?]
    cases raw.departure <|> raw.plannedDeparture with
    | none => exact .none
    | some departure =>
      cases raw.arrival <|> raw.plannedArrival with
      | none => exact .none
      | some arrival => exact .some rfl
  · rw [ride?, ride?]
    generalize (PublicLeg.build _ _ _).toOption = leg
    cases leg with
    | none => exact .none
    | some leg => exact .some rfl

theorem Varies.toLeg?_bare (h : Varies raw raw') (hline : raw.line = raw'.line)
    (hstopovers : raw.stopovers = raw'.stopovers) :
    Option.Rel (fun l l' : Leg => l.bare = l'.bare) raw.toLeg? raw'.toLeg? := by
  cases h with
  | mk line stopovers polyline remarks =>
    subst hline
    subst hstopovers
    rw [toLeg?_eq, toLeg?_eq]
    refine rel_bind_of_eq rfl fun origin => rel_bind_of_eq rfl fun destination => ?_
    exact raw.between?_bare polyline remarks origin destination

end Hafas.RawLeg

end Transit
