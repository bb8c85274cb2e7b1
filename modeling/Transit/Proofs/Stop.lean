import Transit.Stop
import Transit.Proofs.Context
import Transit.Proofs.Location

/-! Stops and their positions are read back from their JSON, if their locations fit. -/
namespace Transit

open Json (Blank given)
open Json.Record (required_given omissible_given defaulted_of_required)

namespace Position

def entries (p : Position) : List (String × Option Json) :=
  [("name", some (.str p.name)), ("section", p.part.map .str)]

theorem keys_nodup (p : Position) : (p.entries.map Prod.fst).Nodup := by
  change ["name", "section"].Nodup
  decide

theorem toJson_eq (p : Position) : p.toJson = .obj (given p.entries) := by
  simp only [toJson, entries, given, Json.given_optional, List.append_nil]

theorem ofJson_toJson (p : Position) : ofJson? p.toJson = some p := by
  have hkeys := p.keys_nodup
  have hname := required_given hkeys "name" (by simp [entries]) (Json.string_write p.name)
  have hpart := omissible_given hkeys "section" p.part (by simp [entries]) Json.string_write nofun
  simp [ofJson?, toJson_eq, Json.record_given hkeys, hname, hpart]

theorem plain_toJson (p : Position) {depth : Nat} (h : depth < Json.deepest) :
    p.toJson.isPlain depth = true := by
  rw [toJson_eq]
  exact Json.plain_given h (.field (Json.plain_str _) (.optional Json.plain_str .nil))

end Position

namespace Stop

def entries (s : Stop) : List (String × Option Json) :=
  [("location", some s.location.toJson), ("planned_arrival", s.plannedArrival.map Instant.toJson),
    ("predicted_arrival", s.predictedArrival.map Instant.toJson),
    ("arrival_position", s.arrivalPosition.map Position.toJson),
    ("arrival_cancelled", some (.bool s.arrivalCancelled)),
    ("planned_departure", s.plannedDeparture.map Instant.toJson),
    ("predicted_departure", s.predictedDeparture.map Instant.toJson),
    ("departure_position", s.departurePosition.map Position.toJson),
    ("departure_cancelled", some (.bool s.departureCancelled)),
    ("stop_sequence", s.sequence.map fun n => .nat n.toNat),
    ("stop_index", s.index.map fun n => .nat n.toNat)]

theorem keys_nodup (s : Stop) : (s.entries.map Prod.fst).Nodup := by
  change fieldNames.Nodup
  decide

theorem toJson_eq (s : Stop) : s.toJson = .obj (given s.entries) := by
  simp only [toJson, entries, given, Json.given_optional, List.append_assoc, List.append_nil,
    List.cons_append, List.nil_append]

theorem ofJson_toJson (blank : Blank) {s : Stop} (h : s.location.Fits) :
    ofJsonWith? blank s.toJson = some s := by
  have hkeys := s.keys_nodup
  have hinstant : ∀ t : Instant, t.toJson ≠ .null := fun t => Json.str_ne_null t.text
  have hlocation := required_given hkeys "location" (by simp [entries])
    (s.location.ofJson_toJson blank h)
  have hplannedArrival := omissible_given hkeys "planned_arrival" s.plannedArrival
    (by simp [entries]) Instant.ofJson_toJson hinstant
  have hpredictedArrival := omissible_given hkeys "predicted_arrival" s.predictedArrival
    (by simp [entries]) Instant.ofJson_toJson hinstant
  have harrivalPosition := omissible_given hkeys "arrival_position" s.arrivalPosition
    (by simp [entries]) Position.ofJson_toJson nofun
  have harrivalCancelled := required_given hkeys "arrival_cancelled" (by simp [entries])
    (Json.bool_write s.arrivalCancelled)
  have hplannedDeparture := omissible_given hkeys "planned_departure" s.plannedDeparture
    (by simp [entries]) Instant.ofJson_toJson hinstant
  have hpredictedDeparture := omissible_given hkeys "predicted_departure" s.predictedDeparture
    (by simp [entries]) Instant.ofJson_toJson hinstant
  have hdeparturePosition := omissible_given hkeys "departure_position" s.departurePosition
    (by simp [entries]) Position.ofJson_toJson nofun
  have hdepartureCancelled := required_given hkeys "departure_cancelled" (by simp [entries])
    (Json.bool_write s.departureCancelled)
  have hsequence := omissible_given hkeys "stop_sequence" s.sequence (by simp [entries])
    Json.uint32_write nofun
  have hindex := omissible_given hkeys "stop_index" s.index (by simp [entries])
    Json.uint32_write nofun
  rw [ofJsonWith?, toJson_eq]
  simp only [bind, Option.bind_some, Json.record_given hkeys, hlocation, hplannedArrival,
    hpredictedArrival, harrivalPosition, defaulted_of_required harrivalCancelled,
    hplannedDeparture, hpredictedDeparture, hdeparturePosition,
    defaulted_of_required hdepartureCancelled, hsequence, hindex]

theorem plain_toJson (s : Stop) {depth : Nat} (h : depth + 2 < Json.deepest) :
    s.toJson.isPlain depth = true := by
  have hinstant : ∀ t : Instant, t.toJson.isPlain (depth + 1) = true :=
    fun t => Json.plain_str t.text
  have hposition : ∀ p : Position, p.toJson.isPlain (depth + 1) = true :=
    fun p => p.plain_toJson (by omega)
  rw [toJson_eq]
  refine Json.plain_given (by omega) (.field (s.location.plain_toJson h) ?_)
  refine .optional hinstant (.optional hinstant (.optional hposition
    (.field (Json.plain_bool _) ?_)))
  refine .optional hinstant (.optional hinstant (.optional hposition
    (.field (Json.plain_bool _) ?_)))
  exact .optional Json.plain_uint32 (.optional Json.plain_uint32 .nil)

end Stop

end Transit
