import Transit.Leg
import Transit.Proofs.Line
import Transit.Proofs.Stop

/-! # Legs read back

A leg is read back from its JSON if the locations of its stops fit. Its kind stands in a field of
its own, so that the others are read as those of a ride or of a leg on one's own.
-/
namespace Transit

open Json (Blank given)
open Json.Record (required_given omissible_given defaulted_given defaulted_of_required)

/-- A path that is left out when it is empty. -/
def pathEntry (path : List Point) : Option Json :=
  if path.isEmpty then none else some (Json.list Point.toJson path)

theorem given_pathEntry (path : List Point) (entries : List (String × Option Json)) :
    given (("path", pathEntry path) :: entries) = PublicLeg.pathField path ++ given entries := by
  cases path <;> rfl

theorem read_pathEntry {path : List Point} {j : Json} (h : pathEntry path = some j) :
    Json.list? Point.ofJson? j = some path := by
  rw [pathEntry] at h
  split at h
  · cases h
  · cases h
    exact Json.list_write Point.ofJson_toJson path

theorem eq_nil_of_pathEntry {path : List Point} (h : pathEntry path = none) : path = [] := by
  rw [pathEntry] at h
  split at h
  · rename_i hempty
    exact List.isEmpty_iff.mp hempty
  · cases h

theorem plain_pathEntry {path : List Point} {depth : Nat} {entries : List (String × Option Json)}
    (h : depth + 1 < Json.deepest) (hrest : Json.PlainEntries depth entries) :
    Json.PlainEntries depth (("path", pathEntry path) :: entries) := by
  rw [pathEntry]
  split
  · exact .omitted hrest
  · exact .field (Json.plain_list (by omega) (fun p => p.plain_toJson h) path) hrest

namespace PublicLeg

/-- All stops of a ride. -/
def stops (l : PublicLeg) : List Stop := l.departureStop :: l.arrivalStop :: l.intermediateStops

def entries (l : PublicLeg) : List (String × Option Json) :=
  [("line", some l.line.toJson), ("destination", l.destination.map .str),
    ("departure_stop", some l.departureStop.toJson), ("arrival_stop", some l.arrivalStop.toJson),
    ("intermediate_stops", some (Json.list Stop.toJson l.intermediateStops)),
    ("path", pathEntry l.path), ("message", l.message.map .str)]

theorem keys_nodup (l : PublicLeg) : (l.entries.map Prod.fst).Nodup := by
  change fieldNames.Nodup
  decide

theorem build_eq_ok {line : Line} {departureStop arrivalStop : Stop} {l : PublicLeg}
    (h : build line departureStop arrivalStop = .ok l) :
    l.departureStop = departureStop ∧ l.arrivalStop = arrivalStop := by
  rw [build] at h
  split at h
  · cases h
  · split at h
    · cases h
    · cases h
      exact ⟨rfl, rfl⟩

theorem isSome_build (line : Line) (departureStop arrivalStop : Stop) :
    (build line departureStop arrivalStop).toOption.isSome =
      (departureStop.departureTime.isSome && arrivalStop.arrivalTime.isSome) := by
  rw [build]
  cases departureStop.departureTime with
  | none => rfl
  | some departure => cases arrivalStop.arrivalTime <;> rfl

theorem jsonFields_eq (l : PublicLeg) : l.jsonFields = given l.entries := by
  simp only [jsonFields, entries, given, Json.given_optional, given_pathEntry, List.append_assoc,
    List.append_nil, List.cons_append, List.nil_append]

theorem ofJson_given (blank : Blank) {l : PublicLeg} (h : ∀ s ∈ l.stops, s.location.Fits) :
    ofJsonWith? blank (.obj (given l.entries)) = some l := by
  have hkeys := l.keys_nodup
  have hline := required_given hkeys "line" (by simp [entries]) (l.line.ofJson_toJson blank)
  have hdestination :=
    omissible_given hkeys "destination" l.destination (by simp [entries]) Json.string_write nofun
  have hdeparture := required_given hkeys "departure_stop" (by simp [entries])
    (Stop.ofJson_toJson blank (h l.departureStop (by simp [stops])))
  have harrival := required_given hkeys "arrival_stop" (by simp [entries])
    (Stop.ofJson_toJson blank (h l.arrivalStop (by simp [stops])))
  have hintermediate := required_given hkeys "intermediate_stops" (by simp [entries])
    (Json.list_write_of_mem fun s hs => Stop.ofJson_toJson blank (h s (.tail _ (.tail _ hs))))
  have hpath := defaulted_given hkeys "path" (by simp [entries])
    (fun j => @read_pathEntry l.path j) eq_nil_of_pathEntry
  have hmessage :=
    omissible_given hkeys "message" l.message (by simp [entries]) Json.string_write nofun
  simp [ofJsonWith?, Json.record_given hkeys, hline, hdestination, hdeparture, harrival,
    defaulted_of_required hintermediate, hpath, hmessage]

theorem plain_entries (l : PublicLeg) {depth : Nat} (h : depth + 3 < Json.deepest) :
    Json.PlainEntries depth l.entries := by
  have hstops : (Json.list Stop.toJson l.intermediateStops).isPlain depth = true :=
    Json.plain_list (by omega) (fun s => s.plain_toJson h) _
  refine .field (l.line.plain_toJson (by omega)) (.optional Json.plain_str ?_)
  refine .field (l.departureStop.plain_toJson (by omega))
    (.field (l.arrivalStop.plain_toJson (by omega)) (.field hstops ?_))
  exact plain_pathEntry (by omega) (.optional Json.plain_str .nil)

end PublicLeg

theorem IndividualKind.ofJson_toJson (blank : Blank) (k : IndividualKind) :
    ofJsonWith? blank (.str k.name) = some k := by
  cases k <;> rfl

namespace IndividualLeg

/-- Both stops of a leg on one's own. -/
def stops (l : IndividualLeg) : List Stop := [l.departureStop, l.arrivalStop]

def entries (l : IndividualLeg) : List (String × Option Json) :=
  [("kind", some (.str l.kind.name)), ("departure_stop", some l.departureStop.toJson),
    ("arrival_stop", some l.arrivalStop.toJson), ("distance_m", some (.nat l.distance.toNat)),
    ("path", pathEntry l.path)]

theorem keys_nodup (l : IndividualLeg) : (l.entries.map Prod.fst).Nodup := by
  change ["kind", "departure_stop", "arrival_stop", "distance_m", "path"].Nodup
  decide

theorem jsonFields_eq (l : IndividualLeg) : l.jsonFields = given l.entries := by
  simp only [jsonFields, entries, given, given_pathEntry, List.append_nil, List.cons_append,
    List.nil_append]

theorem ofJson_given (blank : Blank) {l : IndividualLeg} (h : ∀ s ∈ l.stops, s.location.Fits) :
    ofJsonWith? blank (.obj (given l.entries)) = some l := by
  have hkeys := l.keys_nodup
  have hkind := required_given hkeys "kind" (by simp [entries]) (l.kind.ofJson_toJson blank)
  have hdeparture := required_given hkeys "departure_stop" (by simp [entries])
    (Stop.ofJson_toJson blank (h l.departureStop (by simp [stops])))
  have harrival := required_given hkeys "arrival_stop" (by simp [entries])
    (Stop.ofJson_toJson blank (h l.arrivalStop (by simp [stops])))
  have hdistance := required_given hkeys "distance_m" (by simp [entries])
    (Json.uint32_write l.distance)
  have hpath := defaulted_given hkeys "path" (by simp [entries])
    (fun j => @read_pathEntry l.path j) eq_nil_of_pathEntry
  simp [ofJsonWith?, Json.record_given hkeys, hkind, hdeparture, harrival,
    defaulted_of_required hdistance, hpath]

theorem plain_entries (l : IndividualLeg) {depth : Nat} (h : depth + 2 < Json.deepest) :
    Json.PlainEntries depth l.entries := by
  refine .field (Json.plain_str _) (.field (l.departureStop.plain_toJson h)
    (.field (l.arrivalStop.plain_toJson h) (.field (Json.plain_uint32 _) ?_)))
  exact plain_pathEntry (by omega) .nil

end IndividualLeg

namespace Leg

def stops : Leg → List Stop
  | .ride l => l.stops
  | .individual l => l.stops

/-- The locations of all stops fit. -/
def Fits (l : Leg) : Prop := ∀ s ∈ l.stops, s.location.Fits

/-- The kind is taken out, and the other fields stay as they are. -/
theorem tagged_given {entries : List (String × Option Json)} (h : "type" ∉ entries.map Prod.fst)
    (tag : String) :
    tagged? (.obj (("type", .str tag) :: given entries)) = some (tag, .obj (given entries)) := by
  have hother : ∀ field ∈ given entries, field.1 ≠ "type" := by
    intro field hfield hname
    refine h ((Json.keys_given entries).subset ?_)
    rw [← hname]
    exact List.mem_map_of_mem hfield
  have hnone : (given entries).filter (·.1 == "type") = [] := by
    simpa [List.filter_eq_nil_iff] using fun a b => hother (a, b)
  have hall : (given entries).filter (·.1 != "type") = given entries := by
    simpa [List.filter_eq_self] using fun a b => hother (a, b)
  rw [tagged?, List.filter_cons_of_pos (by rfl), hnone, List.filter_cons_of_neg (by simp), hall]

theorem plain_toJson (l : Leg) {depth : Nat} (h : depth + 4 < Json.deepest) :
    l.toJson.isPlain depth = true := by
  cases l with
  | ride l =>
    have hentries : Json.PlainEntries (depth + 1) (("type", some (.str "public")) :: l.entries) :=
      .field (Json.plain_str _) (l.plain_entries h)
    have hplain := Json.plain_given (Nat.lt_of_le_of_lt (Nat.le_add_right depth 4) h) hentries
    rw [toJson, l.jsonFields_eq]
    exact hplain
  | individual l =>
    have hentries :
        Json.PlainEntries (depth + 1) (("type", some (.str "individual")) :: l.entries) :=
      .field (Json.plain_str _) (l.plain_entries (by omega))
    have hplain := Json.plain_given (Nat.lt_of_le_of_lt (Nat.le_add_right depth 4) h) hentries
    rw [toJson, l.jsonFields_eq]
    exact hplain

/-- A leg whose locations fit is read back. -/
theorem ofJson_toJson {l : Leg} (h : l.Fits) : ofJson? l.toJson = some l := by
  have hplain : l.toJson.isPlain 0 = true := l.plain_toJson (by decide)
  have hsettled : l.toJson.isSettled = true := Json.settled_of_plain hplain
  rw [ofJson?, hsettled]
  cases l with
  | ride l =>
    have habsent : "type" ∉ l.entries.map Prod.fst := by
      change "type" ∉ PublicLeg.fieldNames
      decide
    rw [toJson, l.jsonFields_eq, tagged_given habsent]
    simp [PublicLeg.ofJson_given .nullOrEmpty h]
  | individual l =>
    have habsent : "type" ∉ l.entries.map Prod.fst := by
      change "type" ∉ ["kind", "departure_stop", "arrival_stop", "distance_m", "path"]
      decide
    rw [toJson, l.jsonFields_eq, tagged_given habsent]
    simp [IndividualLeg.ofJson_given .nullOrEmpty h]

end Leg

end Transit
