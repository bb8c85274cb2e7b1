import Transit.CommandLine.Run
import Transit.Proofs.Json.Record
import Transit.Proofs.Trip

/-! # Trips on the output

A list of trips is shown as JSON, from which it is read back as it is, or as text, with one block
for each trip. A block begins with a line about the trip, and has one more line for each of its
legs.
-/
namespace Transit

open Json (list)

namespace Render

variable {t : Trip} {l : Leg} {trips : List Trip}

/-- The line for a leg: when and where it starts, when and where it ends, and by what. -/
inductive LegLine : Leg → String → Prop
  | ride {l : PublicLeg} {departs arrives : Instant}
    (departure : l.departureStop.departureTime = some departs)
    (arrival : l.arrivalStop.arrivalTime = some arrives) :
    LegLine (.ride l)
      ("    " ++ departs.clock ++ " " ++ l.departureStop.location.text ++ " → " ++ arrives.clock ++
        " " ++ l.arrivalStop.location.text ++ " (" ++ l.line.text ++ ")")
  | individual {l : IndividualLeg} {departs arrives : Instant}
    (departure : l.departureStop.departureTime = some departs)
    (arrival : l.arrivalStop.arrivalTime = some arrives) :
    LegLine (.individual l)
      ("    " ++ departs.clock ++ " " ++ l.departureStop.location.text ++ " → " ++ arrives.clock ++
        " " ++ l.arrivalStop.location.text ++
        " (" ++ (l.kind.label ++ " " ++ toString l.distance.toNat ++ "m") ++ ")")

/-- The lines for a trip: when it starts and ends, how long it takes, how often one changes, and
what one rides; then those for its legs, in their order. -/
inductive Block : Trip → List String → Prop
  | of {t : Trip} {legLines : List String} (legs : List.Forall₂ LegLine t.legs legLines) :
    Block t ((t.firstDeparture.clock ++ " → " ++ t.lastArrival.clock ++ " (" ++
      toString t.duration.minutes ++ "min, " ++ toString t.changes ++ " changes) " ++
        " → ".intercalate (t.rides.map fun l => l.line.text)) :: legLines)

theorem legLine_leg (hdeparture : l.departureTime.isSome) (harrival : l.arrivalTime.isSome) :
    LegLine l ("    " ++ leg l) := by
  obtain ⟨departs, hdeparts⟩ := Option.isSome_iff_exists.mp hdeparture
  obtain ⟨arrives, harrives⟩ := Option.isSome_iff_exists.mp harrival
  have hdepartsClock : clock l.departureTime = departs.clock := by rw [hdeparts]; rfl
  have harrivesClock : clock l.arrivalTime = arrives.clock := by rw [harrives]; rfl
  rw [leg, hdepartsClock, harrivesClock]
  cases l with
  | ride l =>
    have hline := LegLine.ride hdeparts harrives
    simp only [String.append_assoc] at hline ⊢
    exact hline
  | individual l =>
    have hline := LegLine.individual hdeparts harrives
    simp only [String.append_assoc, means] at hline ⊢
    exact hline

theorem block_trip (h : t.WellFormed) : Block t (trip t) := by
  refine Block.of ?_
  have hlegs := h.timed
  generalize t.legs = legs at hlegs
  induction legs with
  | nil => exact .nil
  | cons l legs ih =>
    rw [List.forall_mem_cons] at hlegs
    exact .cons (legLine_leg hlegs.1.1 hlegs.1.2) (ih hlegs.2)

/-- The text of a list of trips is that of its blocks, line by line. -/
theorem trips_eq (h : trips ≠ []) :
    Render.trips trips = String.join ((trips.map trip).flatten.map (· ++ "\n")) := by
  have hlines : trips.flatMap trip ≠ [] := by
    obtain ⟨t, rest, rfl⟩ := List.exists_cons_of_ne_nil h
    simp [trip]
  rw [Render.trips, linesOr, if_neg (by simpa using hlines)]
  rfl

end Render

namespace CommandLine

/-- What an output shows, as JSON or as text. -/
inductive Shows : Bool → List Trip → String → Prop
  | json {trips : List Trip} {output : String}
    (read : (Json.ofText? output).bind (Json.list? Trip.ofJson?) = some trips) :
    Shows true trips output
  | text {trips : List Trip} {blocks : List (List String)}
    (each : List.Forall₂ Render.Block trips blocks) (travelled : trips ≠ []) :
    Shows false trips (String.join (blocks.flatten.map (· ++ "\n")))
  | nothing : Shows false [] "No trips\n"

/-- What is shown of a list of trips: the same ones as JSON and as text. -/
def listed (json : Bool) (trips : List Trip) : String :=
  shown json (Json.list Trip.toJson trips) (Render.trips trips)

/-- Trips that are read back each are shown as their list. -/
theorem shows_listed {trips : List Trip}
    (h : ∀ t ∈ trips, t.WellFormed ∧ ∀ l ∈ t.legs, l.Fits) (json : Bool) :
    Shows json trips (listed json trips) := by
  cases json with
  | true =>
    have hplain : (Json.list Trip.toJson trips).isPlain 0 = true :=
      Json.plain_list (by decide) (fun t => t.plain_toJson (by decide)) trips
    refine .json ?_
    rw [listed, shown, if_pos rfl, Json.ofText_pretty hplain, Option.bind_some]
    exact Json.list_write_of_mem fun t ht => Trip.ofJson_toJson (h t ht).1 (h t ht).2
  | false =>
    by_cases hempty : trips = []
    · subst hempty
      exact .nothing
    · rw [listed, shown, if_neg Bool.false_ne_true, Render.trips_eq hempty]
      refine .text ?_ hempty
      rw [List.forall₂_map_right_iff, List.forall₂_same]
      exact fun t ht => Render.block_trip (h t ht).1

end CommandLine

end Transit
