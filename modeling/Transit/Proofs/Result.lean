import Transit.Proofs.Board
import Transit.Proofs.Hafas.Payload

/-! # Results that are built, and results that are read

Every way to build a result keeps its payload in line with its status, and so does what a provider
does to the results of a session; every result that is so can be built. Reading a result asks for
nothing but parts that can be read, so a result that is read may carry any payload with any status.
-/
namespace Transit

open Json (Readable source given read_source list_source)
open Json.Record (required_given omissible_given omissible_source defaulted_of_required
  readable_of_omissible readable_of_required_list readable_of_defaulted_list)
open StableSort (SortedBy)

namespace ResultHeader

def entries (h : ResultHeader) : List (String × Option Json) :=
  [("network", some (.str h.network)), ("server_product", some (.str h.serverProduct)),
    ("server_version", h.serverVersion.map .str), ("server_time", h.serverTime.map Instant.toJson)]

theorem keys_nodup (h : ResultHeader) : (h.entries.map Prod.fst).Nodup := by
  change ["network", "server_product", "server_version", "server_time"].Nodup
  decide

theorem toJson_eq (h : ResultHeader) : h.toJson = .obj (given h.entries) := by
  simp only [toJson, entries, given, Json.given_optional, List.append_nil, List.cons_append,
    List.nil_append]

theorem ofJson_toJson (h : ResultHeader) : ofJson? h.toJson = some h := by
  have hkeys := h.keys_nodup
  have hinstant : ∀ t : Instant, t.toJson ≠ .null := fun t => Json.str_ne_null t.text
  have hnetwork := required_given hkeys "network" (by simp [entries]) (Json.string_write h.network)
  have hproduct := required_given hkeys "server_product" (by simp [entries])
    (Json.string_write h.serverProduct)
  have hversion := omissible_given hkeys "server_version" h.serverVersion (by simp [entries])
    Json.string_write nofun
  have htime := omissible_given hkeys "server_time" h.serverTime (by simp [entries])
    Instant.ofJson_toJson hinstant
  simp [ofJson?, toJson_eq, Json.record_given hkeys, hnetwork, hproduct, hversion, htime]

end ResultHeader

theorem NearbyStatus.ofJson_name (s : NearbyStatus) : ofJson? (.str s.name) = some s := by
  cases s <;> rfl

theorem DeparturesStatus.ofJson_name (s : DeparturesStatus) : ofJson? (.str s.name) = some s := by
  cases s <;> rfl

theorem TripsStatus.ofJson_name (s : TripsStatus) : ofJson? (.str s.name) = some s := by
  cases s <;> rfl

namespace NearbyResult

variable {r : NearbyResult}

inductive Built : NearbyResult → Prop
  | found (header : ResultHeader) (locations : List Location) : Built (.found header locations)
  | invalidId (header : ResultHeader) : Built (.invalidId header)

theorem built_iff : r.Built ↔ (r.status ≠ .ok → r.locations = []) := by
  constructor
  · intro h hbad
    cases h with
    | found header locations => exact absurd rfl hbad
    | invalidId header => rfl
  · intro h
    rcases r with ⟨header, status, locations⟩
    cases status with
    | ok => exact .found header locations
    | invalidId =>
      obtain rfl : locations = [] := h nofun
      exact .invalidId header

noncomputable def entries (r : NearbyResult) : List (String × Option Json) :=
  [("header", some r.header.toJson), ("status", some (.str r.status.name)),
    ("locations", some (Json.list (source Location.ofJson?) r.locations))]

theorem keys_nodup (r : NearbyResult) : (r.entries.map Prod.fst).Nodup := by
  change ["header", "status", "locations"].Nodup
  decide

theorem readable_iff : Readable ofJson? r ↔ ∀ l ∈ r.locations, Readable Location.ofJson? l := by
  constructor
  · rintro ⟨j, h⟩
    obtain ⟨fields, -, h⟩ := Option.bind_eq_some_iff.mp h
    obtain ⟨header, -, h⟩ := Option.bind_eq_some_iff.mp h
    obtain ⟨status, -, h⟩ := Option.bind_eq_some_iff.mp h
    obtain ⟨locations, hlocations, h⟩ := Option.bind_eq_some_iff.mp h
    obtain rfl := Option.some.inj h
    exact readable_of_required_list hlocations
  · intro h
    have hkeys := r.keys_nodup
    have hheader := required_given hkeys "header" (by simp [entries]) r.header.ofJson_toJson
    have hstatus := required_given hkeys "status" (by simp [entries]) r.status.ofJson_name
    have hlocations := required_given hkeys "locations" (by simp [entries]) (list_source h)
    refine ⟨.obj (given r.entries), ?_⟩
    simp [ofJson?, Json.record_given hkeys, hheader, hstatus, hlocations]

end NearbyResult

namespace DeparturesResult

variable {r : DeparturesResult}

inductive Built : DeparturesResult → Prop
  | found (header : ResultHeader) (boards : List StationDepartures) : Built (.found header boards)
  | invalidStation (header : ResultHeader) : Built (.invalidStation header)
  | serviceDown (header : ResultHeader) : Built (.serviceDown header)

theorem built_iff : r.Built ↔ (r.status ≠ .ok → r.boards = []) := by
  constructor
  · intro h hbad
    cases h with
    | found header boards => exact absurd rfl hbad
    | invalidStation header => rfl
    | serviceDown header => rfl
  · intro h
    rcases r with ⟨header, status, boards⟩
    cases status with
    | ok => exact .found header boards
    | invalidStation =>
      obtain rfl : boards = [] := h nofun
      exact .invalidStation header
    | serviceDown =>
      obtain rfl : boards = [] := h nofun
      exact .serviceDown header

noncomputable def entries (r : DeparturesResult) : List (String × Option Json) :=
  [("header", some r.header.toJson), ("status", some (.str r.status.name)),
    ("station_departures", some (Json.list (source StationDepartures.ofJson?) r.boards))]

theorem keys_nodup (r : DeparturesResult) : (r.entries.map Prod.fst).Nodup := by
  change ["header", "status", "station_departures"].Nodup
  decide

theorem readable_iff :
    Readable ofJson? r ↔ ∀ b ∈ r.boards, Readable StationDepartures.ofJson? b := by
  constructor
  · rintro ⟨j, h⟩
    obtain ⟨fields, -, h⟩ := Option.bind_eq_some_iff.mp h
    obtain ⟨header, -, h⟩ := Option.bind_eq_some_iff.mp h
    obtain ⟨status, -, h⟩ := Option.bind_eq_some_iff.mp h
    obtain ⟨boards, hboards, h⟩ := Option.bind_eq_some_iff.mp h
    obtain rfl := Option.some.inj h
    exact readable_of_required_list hboards
  · intro h
    have hkeys := r.keys_nodup
    have hheader := required_given hkeys "header" (by simp [entries]) r.header.ofJson_toJson
    have hstatus := required_given hkeys "status" (by simp [entries]) r.status.ofJson_name
    have hboards := required_given hkeys "station_departures" (by simp [entries]) (list_source h)
    refine ⟨.obj (given r.entries), ?_⟩
    simp [ofJson?, Json.record_given hkeys, hheader, hstatus, hboards]

end DeparturesResult

namespace TripsResult

variable {r : TripsResult}

/-- A result that was built, and whatever a provider has noted in it since. -/
inductive Built : TripsResult → Prop
  | found (header : ResultHeader) (trips : List Trip) (context : TripsContext) :
    Built (.found header trips context)
  | ambiguous (header : ResultHeader) (origin via destination : List Location) :
    Built (.ambiguous header origin via destination)
  | withStatus {header : ResultHeader} {status : TripsStatus} {r : TripsResult}
    (h : TripsResult.withStatus header status = .ok r) : Built r
  | serviceDown (header : ResultHeader) : Built (.serviceDown header)
  | located {r : TripsResult} (origin via destination : Option Location) (h : Built r) :
    Built { r with origin, via, destination }
  | asked {r : TripsResult} (queryUri : String) (h : Built r) :
    Built { r with queryUri := some queryUri }
  | stamped {r : TripsResult} (h : Built r) : Built (Provider.stamp r)
  | advanced {r : TripsResult} (window : Option DepartureWindow) (d : Direction) (h : Built r) :
    Built (Provider.advance window d r)

theorem coherent_withStatus {header : ResultHeader} {status : TripsStatus}
    (h : withStatus header status = .ok r) : r.Coherent := by
  rw [withStatus] at h
  split at h
  · cases h
  · rename_i hother
    cases h
    exact coherent_bare header fun hok => hother (by rw [hok]; rfl)

theorem Built.coherent (h : r.Built) : r.Coherent := by
  induction h with
  | found header trips context => exact coherent_of_ok rfl rfl ⟨rfl, rfl, rfl⟩
  | ambiguous header origin via destination => exact coherent_ambiguous header _ _ _
  | withStatus h => exact coherent_withStatus h
  | serviceDown header => exact coherent_bare header nofun
  | located origin via destination _ ih => exact ⟨ih.good, ih.other, ih.decided⟩
  | asked queryUri _ ih => exact ⟨ih.good, ih.other, ih.decided⟩
  | stamped _ ih => exact ih.withWindow _
  | advanced window d _ ih => exact ih.advance window d

/-- Whatever is noted in a result that was built. -/
theorem Built.noted (h : r.Built) (hnone : r.queryUri = none) (queryUri : Option String)
    (origin via destination : Option Location) :
    Built { r with queryUri, origin, via, destination } := by
  have hlocated := h.located origin via destination
  cases queryUri with
  | none => rwa [← hnone]
  | some uri => exact hlocated.asked uri

/-- A coherent result is built for its status, from its own payload. -/
theorem Coherent.built (h : r.Coherent) : r.Built := by
  rcases r with ⟨header, status, queryUri, origin, via, destination, ambiguousFrom, ambiguousVia,
    ambiguousTo, trips, context⟩
  obtain ⟨hgood, hother, hdecided⟩ := h
  dsimp only at hgood hother hdecided
  by_cases hok : status = .ok
  · obtain rfl := hok
    obtain ⟨rfl, rfl, rfl⟩ := hdecided nofun
    obtain ⟨context, rfl⟩ := Option.isSome_iff_exists.mp (hgood rfl)
    exact (Built.found header trips context).noted rfl queryUri origin via destination
  · obtain ⟨rfl, rfl⟩ := hother hok
    by_cases hambiguous : status = .ambiguous
    · obtain rfl := hambiguous
      exact (Built.ambiguous header ambiguousFrom ambiguousVia ambiguousTo).noted rfl queryUri
        origin via destination
    · obtain ⟨rfl, rfl, rfl⟩ := hdecided hambiguous
      have hbare : TripsResult.withStatus header status = .ok (bare header status) := by
        rw [TripsResult.withStatus, if_neg]
        simp [hok, hambiguous]
      exact (Built.withStatus hbare).noted rfl queryUri origin via destination

theorem built_iff : r.Built ↔ r.Coherent := ⟨Built.coherent, Coherent.built⟩

/-- All the locations that a result has. -/
def locations (r : TripsResult) : List Location :=
  r.origin.toList ++ r.via.toList ++ r.destination.toList ++
    (r.ambiguousFrom ++ r.ambiguousVia ++ r.ambiguousTo)

theorem forall_locations {P : Location → Prop} : (∀ l ∈ r.locations, P l) ↔
    (∀ l ∈ r.origin, P l) ∧ (∀ l ∈ r.via, P l) ∧ (∀ l ∈ r.destination, P l) ∧
      (∀ l ∈ r.ambiguousFrom, P l) ∧ (∀ l ∈ r.ambiguousVia, P l) ∧ ∀ l ∈ r.ambiguousTo, P l := by
  simp only [locations, List.forall_mem_append, Option.mem_toList, Option.mem_def, and_assoc]

noncomputable def entries (r : TripsResult) : List (String × Option Json) :=
  [("header", some r.header.toJson), ("status", some (.str r.status.name)),
    ("query_uri", r.queryUri.map .str), ("from", r.origin.map (source Location.ofJson?)),
    ("via", r.via.map (source Location.ofJson?)),
    ("to", r.destination.map (source Location.ofJson?)),
    ("ambiguous_from", some (Json.list (source Location.ofJson?) r.ambiguousFrom)),
    ("ambiguous_via", some (Json.list (source Location.ofJson?) r.ambiguousVia)),
    ("ambiguous_to", some (Json.list (source Location.ofJson?) r.ambiguousTo)),
    ("trips", some (Json.list (source Trip.ofJson?) r.trips)),
    ("context", r.context.map TripsContext.toJson)]

theorem keys_nodup (r : TripsResult) : (r.entries.map Prod.fst).Nodup := by
  change fieldNames.Nodup
  decide

/-- A result is read with any status, and with any context or none. -/
theorem readable_iff : Readable ofJson? r ↔
    (∀ l ∈ r.locations, Readable Location.ofJson? l) ∧ ∀ t ∈ r.trips, Readable Trip.ofJson? t := by
  rw [forall_locations]
  constructor
  · rintro ⟨j, h⟩
    obtain ⟨fields, -, h⟩ := Option.bind_eq_some_iff.mp h
    obtain ⟨header, -, h⟩ := Option.bind_eq_some_iff.mp h
    obtain ⟨status, -, h⟩ := Option.bind_eq_some_iff.mp h
    obtain ⟨queryUri, -, h⟩ := Option.bind_eq_some_iff.mp h
    obtain ⟨origin, horigin, h⟩ := Option.bind_eq_some_iff.mp h
    obtain ⟨via, hvia, h⟩ := Option.bind_eq_some_iff.mp h
    obtain ⟨destination, hdestination, h⟩ := Option.bind_eq_some_iff.mp h
    obtain ⟨ambiguousFrom, hfrom, h⟩ := Option.bind_eq_some_iff.mp h
    obtain ⟨ambiguousVia, hthrough, h⟩ := Option.bind_eq_some_iff.mp h
    obtain ⟨ambiguousTo, hto, h⟩ := Option.bind_eq_some_iff.mp h
    obtain ⟨trips, htrips, h⟩ := Option.bind_eq_some_iff.mp h
    obtain ⟨context, -, h⟩ := Option.bind_eq_some_iff.mp h
    obtain rfl := Option.some.inj h
    exact ⟨⟨readable_of_omissible horigin, readable_of_omissible hvia,
      readable_of_omissible hdestination, readable_of_defaulted_list hfrom,
      readable_of_defaulted_list hthrough, readable_of_defaulted_list hto⟩,
      readable_of_defaulted_list htrips⟩
  · rintro ⟨⟨horigin, hvia, hdestination, hfrom, hthrough, hto⟩, htrips⟩
    have hkeys := r.keys_nodup
    have hheader := required_given hkeys "header" (by simp [entries]) r.header.ofJson_toJson
    have hstatus := required_given hkeys "status" (by simp [entries]) r.status.ofJson_name
    have huri := omissible_given hkeys "query_uri" r.queryUri (by simp [entries])
      Json.string_write nofun
    have horigin := omissible_source hkeys "from" (by simp [entries]) horigin rfl
    have hvia := omissible_source hkeys "via" (by simp [entries]) hvia rfl
    have hdestination := omissible_source hkeys "to" (by simp [entries]) hdestination rfl
    have hfrom := required_given hkeys "ambiguous_from" (by simp [entries]) (list_source hfrom)
    have hthrough := required_given hkeys "ambiguous_via" (by simp [entries]) (list_source hthrough)
    have hto := required_given hkeys "ambiguous_to" (by simp [entries]) (list_source hto)
    have htrips := required_given hkeys "trips" (by simp [entries]) (list_source htrips)
    have hnull : ∀ c : TripsContext, c.toJson ≠ .null := fun c hc => by cases hc
    have hcontext := omissible_given hkeys "context" r.context (by simp [entries])
      TripsContext.ofJson_toJson hnull
    refine ⟨.obj (given r.entries), ?_⟩
    rw [ofJson?]
    simp only [bind, Option.bind_some, Json.record_given hkeys, hheader, hstatus, huri, horigin,
      hvia, hdestination, defaulted_of_required hfrom, defaulted_of_required hthrough,
      defaulted_of_required hto, defaulted_of_required htrips, hcontext]

end TripsResult

/-- What can be built is exactly what keeps the rules: a result carries what its status announces, and
a board is orderly. What can be read is something else: a result is read exactly if its locations fit
their types and its trips or boards are read themselves, whatever its status; and a board exactly if
its locations fit, with its departures in any order, at any times or none, and with any lines. -/
theorem built_and_readable (r : TripsResult) (n : NearbyResult) (d : DeparturesResult)
    (b : StationDepartures) :
    ((r.Built ↔ r.Coherent) ∧
      (Readable TripsResult.ofJson? r ↔
        (∀ l ∈ r.locations, l.Fits) ∧ ∀ t ∈ r.trips, Readable Trip.ofJson? t)) ∧
    ((n.Built ↔ (n.status ≠ .ok → n.locations = [])) ∧
      (Readable NearbyResult.ofJson? n ↔ ∀ l ∈ n.locations, l.Fits)) ∧
    ((d.Built ↔ (d.status ≠ .ok → d.boards = [])) ∧
      (Readable DeparturesResult.ofJson? d ↔
        ∀ b ∈ d.boards, Readable StationDepartures.ofJson? b)) ∧
    (b.Built ↔ b.Orderly) ∧
      (Readable StationDepartures.ofJson? b ↔
        b.location.Fits ∧ (∀ d ∈ b.departures, ∀ l ∈ d.destination, l.Fits) ∧
          ∀ line ∈ b.lines, ∀ l ∈ line.destination, l.Fits) := by
  refine ⟨⟨TripsResult.built_iff, ?_⟩, ⟨NearbyResult.built_iff, ?_⟩,
    ⟨DeparturesResult.built_iff, DeparturesResult.readable_iff⟩, StationDepartures.built_iff, ?_⟩
  · simp only [TripsResult.readable_iff, Location.readable_iff]
  · simp only [NearbyResult.readable_iff, Location.readable_iff]
  · simp only [StationDepartures.readable_iff, Departure.readable_iff, LineDestination.readable_iff,
      Location.readable_iff]

def anyHeader : ResultHeader := ⟨"n", "p", none, none⟩

/-- Down, and yet with a candidate. -/
def clash : TripsResult :=
  { TripsResult.serviceDown anyHeader with ambiguousFrom := [.station "1"] }

theorem clash_readable_not_built :
    (Provider.stamp (.serviceDown anyHeader)).Coherent ∧
    (NearbyResult.invalidId anyHeader).locations = [] ∧
    (DeparturesResult.serviceDown anyHeader).boards = [] ∧
    (StationDepartures.build (.station "1") []).withOwnLines.Orderly ∧
    Readable TripsResult.ofJson? clash ∧ ¬clash.Coherent ∧ ¬clash.Built := by
  have hstamped : (Provider.stamp (.serviceDown anyHeader)).Built :=
    .stamped (.serviceDown _)
  have hboard : (StationDepartures.build (.station "1") []).withOwnLines.Built :=
    .withOwnLines (.build _ (List.forall_mem_nil _))
  obtain ⟨⟨hcoherent, -⟩, ⟨hnearby, -⟩, ⟨hdepartures, -⟩, horderly, -⟩ :=
    built_and_readable (Provider.stamp (.serviceDown anyHeader))
      (.invalidId anyHeader) (.serviceDown anyHeader)
      (StationDepartures.build (.station "1") []).withOwnLines
  obtain ⟨⟨hbuilt, hread⟩, -⟩ := built_and_readable clash (.invalidId anyHeader)
    (.serviceDown anyHeader) (.build (.station "1") [])
  have hfits : ∀ l ∈ clash.locations, l.Fits := by
    intro l hl
    obtain rfl := List.mem_singleton.mp hl
    exact ⟨nofun, nofun, nofun, rfl, rfl, rfl⟩
  have hclash : ¬clash.Coherent := fun h => by cases (h.decided (by decide)).1
  have htrips : clash.trips = [] := rfl
  have hreadable : Readable TripsResult.ofJson? clash := by
    refine hread.mpr ⟨hfits, ?_⟩
    rw [htrips]
    exact List.forall_mem_nil _
  exact ⟨hcoherent.mp hstamped, hnearby.mp (.invalidId _) (by decide),
    hdepartures.mp (.serviceDown _) (by decide), horderly.mp hboard, hreadable, hclash,
    fun h => hclash (hbuilt.mp h)⟩

def headerJson : Json := .obj [("network", .str "n"), ("server_product", .str "p")]

def stationJson : Json := .obj [("location_type", .str "STATION"), ("id", .str "1")]

/-- Finds no trips, and yet has a candidate and a context. -/
def clashingJson : Json :=
  .obj [("header", headerJson), ("status", .str "NO_TRIPS"),
    ("ambiguous_from", .arr [stationJson]), ("context", .obj [("provider", .str "p"),
      ("can_query_earlier", .bool false), ("can_query_later", .bool true), ("token", .arr [])])]

/-- Does not know the place, and yet what is near it. -/
def strayJson : Json :=
  .obj [("header", headerJson), ("status", .str "INVALID_ID"), ("locations", .arr [stationJson])]

def departureJson (time : Json) : Json :=
  .obj [("planned_time", time), ("predicted_time", .null), ("line", .obj [])]

/-- Is down, and yet has a board: with the later departure first, one that has no time, and one line
twice. -/
def jumbledJson : Json :=
  .obj [("header", headerJson), ("status", .str "SERVICE_DOWN"), ("station_departures", .arr [
    .obj [("location", stationJson), ("departures", .arr [
        departureJson (.str "1970-01-01T01:00:00Z"), departureJson (.str "1970-01-01T00:00:00Z"),
        departureJson .null]),
      ("lines", .arr [.obj [("line", .obj [])], .obj [("line", .obj [])]])]])]

/-- Texts from which results are read that break all the rules. -/
theorem broken_results_read :
    (∃ r, (Json.ofText? clashingJson.compact).bind TripsResult.ofJson? = some r ∧
      r.status = .noTrips ∧ r.context.isSome ∧ r.ambiguousFrom ≠ []) ∧
    (∃ r, (Json.ofText? strayJson.compact).bind NearbyResult.ofJson? = some r ∧
      r.status = .invalidId ∧ r.locations ≠ []) ∧
    ∃ r, (Json.ofText? jumbledJson.compact).bind DeparturesResult.ofJson? = some r ∧
      r.status = .serviceDown ∧ ∃ b ∈ r.boards, ¬SortedBy Departure.time b.departures ∧
        ¬PairwiseDistinct b.lines ∧ ∃ d ∈ b.departures, ¬d.IsTimed := by
  have hplain : clashingJson.isPlain 0 = true ∧ strayJson.isPlain 0 = true ∧
      jumbledJson.isPlain 0 = true := by decide +kernel
  obtain ⟨hclashing, hstray, hjumbled⟩ := hplain
  rw [Json.ofText_compact hclashing, Json.ofText_compact hstray, Json.ofText_compact hjumbled]
  refine ⟨⟨_, rfl, rfl, rfl, nofun⟩, ⟨_, rfl, rfl, nofun⟩, ⟨_, rfl, rfl, ?_⟩⟩
  refine ⟨_, .head _, ?_, ?_, _, .tail _ (.tail _ (.head _)), ?_⟩
  · decide +kernel
  · decide +kernel
  · rintro (h | h) <;> cases h

end Transit
