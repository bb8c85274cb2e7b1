import Transit.Board
import Transit.Proofs.Distinct
import Transit.Proofs.Instant
import Transit.Proofs.Json.Readable
import Transit.Proofs.Line
import Transit.Proofs.Sameness
import Transit.Proofs.StableSort
import Transit.Proofs.Stop

/-! # Boards that are built, and boards that are read

A board is built from departures that are built, and each step that makes it keeps its departures in
order of time and its lines distinct; every board that is so can be built. A board that is read has
whatever departures and lines its JSON has, in their order there: nothing is asked of it but that
its parts can be read.
-/
namespace Transit

open Json (Readable source given read_source list_source)
open Json.Record (required_given required_of_get omissible_given omissible_source optional_given
  readable_of_required readable_of_omissible readable_of_required_list)
open StableSort (SortedBy sortBy_sorted)

theorem Location.readable_iff {l : Location} : Readable ofJson? l ↔ l.Fits := by
  refine ⟨fun ⟨j, h⟩ => ?_, fun h => ⟨l.toJson, ofJson_toJson .null h⟩⟩
  obtain ⟨r, -, h⟩ := Option.bind_eq_some_iff.mp h
  obtain ⟨kind, -, h⟩ := Option.bind_eq_some_iff.mp h
  obtain ⟨id, -, h⟩ := Option.bind_eq_some_iff.mp h
  obtain ⟨coordinate, -, h⟩ := Option.bind_eq_some_iff.mp h
  obtain ⟨place, -, h⟩ := Option.bind_eq_some_iff.mp h
  obtain ⟨name, -, h⟩ := Option.bind_eq_some_iff.mp h
  exact (build_eq_ok (eq_ok_of_toOption h)).2

namespace Departure

variable {d : Departure} {planned predicted : Option Instant} {line : Line}

/-- A departure that was built, and whatever was put into it since. -/
inductive Built : Departure → Prop
  | build {planned predicted : Option Instant} {line : Line} {d : Departure}
    (h : Departure.build planned predicted line = .ok d) : Built d
  | detailed {d : Departure} (line : Line) (position : Option Position)
    (destination : Option Location) (message : Option String) (h : Built d) :
    Built { d with line, position, destination, message }

def IsTimed (d : Departure) : Prop := d.planned.isSome ∨ d.predicted.isSome

theorem timed_of_build (h : build planned predicted line = .ok d) : d.IsTimed := by
  rw [build] at h
  split at h
  · cases h
  · rename_i htimed
    cases h
    rw [IsTimed]
    cases planned with
    | some t => exact .inl rfl
    | none =>
      cases predicted with
      | some t => exact .inr rfl
      | none => exact absurd rfl htimed

theorem Built.timed (h : d.Built) : d.IsTimed := by
  induction h with
  | build h => exact timed_of_build h
  | detailed line position destination message _ ih => exact ih

theorem IsTimed.built (h : d.IsTimed) : d.Built := by
  rcases d with ⟨planned, predicted, line, position, destination, message⟩
  have hbuild : Departure.build planned predicted line = .ok { planned, predicted, line } := by
    rw [Departure.build, if_neg]
    rw [Bool.and_eq_true, Option.isNone_iff_eq_none, Option.isNone_iff_eq_none]
    rintro ⟨rfl, rfl⟩
    rcases h with h | h <;> cases h
  exact (Built.build hbuild).detailed line position destination message

/-- The fields of a departure, with a destination that it can be read from. -/
noncomputable def entries (d : Departure) : List (String × Option Json) :=
  [("planned_time", some (Json.ofOption Instant.toJson d.planned)),
    ("predicted_time", some (Json.ofOption Instant.toJson d.predicted)),
    ("line", some d.line.toJson), ("position", d.position.map Position.toJson),
    ("destination", d.destination.map (source Location.ofJson?)),
    ("message", d.message.map .str)]

theorem keys_nodup (d : Departure) : (d.entries.map Prod.fst).Nodup := by
  change ["planned_time", "predicted_time", "line", "position", "destination", "message"].Nodup
  decide

/-- A departure is read at any times, and at none. -/
theorem readable_iff : Readable ofJson? d ↔ ∀ l ∈ d.destination, Readable Location.ofJson? l := by
  constructor
  · rintro ⟨j, h⟩
    obtain ⟨r, -, h⟩ := Option.bind_eq_some_iff.mp h
    obtain ⟨planned, -, h⟩ := Option.bind_eq_some_iff.mp h
    obtain ⟨predicted, -, h⟩ := Option.bind_eq_some_iff.mp h
    obtain ⟨line, -, h⟩ := Option.bind_eq_some_iff.mp h
    obtain ⟨position, -, h⟩ := Option.bind_eq_some_iff.mp h
    obtain ⟨destination, hdestination, h⟩ := Option.bind_eq_some_iff.mp h
    obtain ⟨message, -, h⟩ := Option.bind_eq_some_iff.mp h
    obtain rfl := Option.some.inj h
    exact readable_of_omissible hdestination
  · intro h
    have hkeys := d.keys_nodup
    have hinstant : ∀ t : Instant, t.toJson ≠ .null := fun t => Json.str_ne_null t.text
    have hplanned := optional_given hkeys "planned_time" d.planned (by simp [entries])
      Instant.ofJson_toJson hinstant
    have hpredicted := optional_given hkeys "predicted_time" d.predicted (by simp [entries])
      Instant.ofJson_toJson hinstant
    have hline : (Json.Record.mk false (given d.entries)).required "line" Line.ofJson? =
        some d.line :=
      required_given hkeys "line" (by simp [entries]) (d.line.ofJson_toJson .null)
    have hposition := omissible_given hkeys "position" d.position (by simp [entries])
      Position.ofJson_toJson nofun
    have hdestination := omissible_source hkeys "destination" (by simp [entries]) h rfl
    have hmessage := omissible_given hkeys "message" d.message (by simp [entries])
      Json.string_write nofun
    refine ⟨.obj (given d.entries), ?_⟩
    simp [ofJson?, Json.record_given hkeys, hplanned, hpredicted, hline, hposition, hdestination,
      hmessage]

end Departure

namespace LineDestination

variable {l : LineDestination}

theorem beq_iff (a b : LineDestination) :
    (a == b) = true ↔ (a.line, a.destination.map Location.canonical) =
      (b.line, b.destination.map Location.canonical) := by
  rcases a with ⟨line, _ | origin⟩ <;> rcases b with ⟨line', _ | origin'⟩ <;>
    change instBEqLineDestination.beq _ _ = true ↔ _ <;>
    simp [instBEqLineDestination.beq, Location.beq_iff]

instance : EquivBEq LineDestination := equivBEq_of_kernel beq_iff

noncomputable def entries (l : LineDestination) : List (String × Option Json) :=
  [("line", some l.line.toJson), ("destination", l.destination.map (source Location.ofJson?))]

theorem keys_nodup (l : LineDestination) : (l.entries.map Prod.fst).Nodup := by
  change ["line", "destination"].Nodup
  decide

theorem readable_iff : Readable ofJson? l ↔ ∀ d ∈ l.destination, Readable Location.ofJson? d := by
  constructor
  · rintro ⟨j, h⟩
    obtain ⟨r, -, h⟩ := Option.bind_eq_some_iff.mp h
    obtain ⟨line, -, h⟩ := Option.bind_eq_some_iff.mp h
    obtain ⟨destination, hdestination, h⟩ := Option.bind_eq_some_iff.mp h
    obtain rfl := Option.some.inj h
    exact readable_of_omissible hdestination
  · intro h
    have hkeys := l.keys_nodup
    have hline : (Json.Record.mk false (given l.entries)).required "line" Line.ofJson? =
        some l.line :=
      required_given hkeys "line" (by simp [entries]) (l.line.ofJson_toJson .null)
    have hdestination := omissible_source hkeys "destination" (by simp [entries]) h rfl
    refine ⟨.obj (given l.entries), ?_⟩
    simp [ofJson?, Json.record_given hkeys, hline, hdestination]

end LineDestination

namespace StationDepartures

variable {b : StationDepartures}

/-- A board of departures that were built, and whatever was made of it since. -/
inductive Built : StationDepartures → Prop
  | build (location : Location) {departures : List Departure} (h : ∀ d ∈ departures, d.Built) :
    Built (StationDepartures.build location departures)
  | withLines {b : StationDepartures} (lines : List LineDestination) (h : Built b) :
    Built (b.withLines lines)
  | withOwnLines {b : StationDepartures} (h : Built b) : Built b.withOwnLines
  | truncate {b : StationDepartures} (most : Nat) (h : Built b) : Built (b.truncate most)

/-- Departures in order of time, which all have, and no line twice. -/
structure Orderly (b : StationDepartures) : Prop where
  sorted : SortedBy Departure.time b.departures
  distinct : PairwiseDistinct b.lines
  timed : ∀ d ∈ b.departures, d.IsTimed

theorem Orderly.withLines (h : b.Orderly) (lines : List LineDestination) :
    (b.withLines lines).Orderly :=
  ⟨h.sorted, addNew_pairwise lines h.distinct, h.timed⟩

theorem Built.orderly (h : b.Built) : b.Orderly := by
  induction h with
  | build location h =>
    exact ⟨sortBy_sorted _, .nil, fun d hd => (h d (List.mem_mergeSort.mp hd)).timed⟩
  | withLines lines _ ih => exact ih.withLines lines
  | withOwnLines _ ih => exact ih.withLines _
  | truncate most _ ih =>
    exact ⟨ih.sorted.sublist (List.take_sublist ..), ih.distinct,
      fun d hd => ih.timed d (List.mem_of_mem_take hd)⟩

/-- A board in order is built from its own departures, with its own lines. -/
theorem Orderly.built (h : b.Orderly) : b.Built := by
  rcases b with ⟨location, departures, lines⟩
  have hsorted : departures.mergeSort (fun a b => a.time ≤ b.time) = departures :=
    List.mergeSort_of_pairwise (by simpa using h.sorted)
  have hlines : addNew [] lines = lines := distinct_eq_self h.distinct
  have hbuilt := (Built.build location fun d hd => (h.timed d hd).built).withLines lines
  rw [StationDepartures.build, StationDepartures.withLines, hsorted, hlines] at hbuilt
  exact hbuilt

theorem built_iff : b.Built ↔ b.Orderly := ⟨Built.orderly, Orderly.built⟩

noncomputable def entries (b : StationDepartures) : List (String × Option Json) :=
  [("location", some (source Location.ofJson? b.location)),
    ("departures", some (Json.list (source Departure.ofJson?) b.departures)),
    ("lines", some (Json.list (source LineDestination.ofJson?) b.lines))]

theorem keys_nodup (b : StationDepartures) : (b.entries.map Prod.fst).Nodup := by
  change ["location", "departures", "lines"].Nodup
  decide

/-- A board is read in any order, and with any lines. -/
theorem readable_iff : Readable ofJson? b ↔
    Readable Location.ofJson? b.location ∧ (∀ d ∈ b.departures, Readable Departure.ofJson? d) ∧
      ∀ l ∈ b.lines, Readable LineDestination.ofJson? l := by
  constructor
  · rintro ⟨j, h⟩
    obtain ⟨r, -, h⟩ := Option.bind_eq_some_iff.mp h
    obtain ⟨location, hlocation, h⟩ := Option.bind_eq_some_iff.mp h
    obtain ⟨departures, hdepartures, h⟩ := Option.bind_eq_some_iff.mp h
    obtain ⟨lines, hlines, h⟩ := Option.bind_eq_some_iff.mp h
    obtain rfl := Option.some.inj h
    exact ⟨readable_of_required hlocation, readable_of_required_list hdepartures,
      readable_of_required_list hlines⟩
  · rintro ⟨hlocation, hdepartures, hlines⟩
    have hkeys := b.keys_nodup
    have hlocation := required_given hkeys "location" (by simp [entries]) (read_source hlocation)
    have hdepartures :=
      required_given hkeys "departures" (by simp [entries]) (list_source hdepartures)
    have hlines := required_given hkeys "lines" (by simp [entries]) (list_source hlines)
    refine ⟨.obj (given b.entries), ?_⟩
    simp [ofJson?, Json.record_given hkeys, hlocation, hdepartures, hlines]

end StationDepartures

end Transit
