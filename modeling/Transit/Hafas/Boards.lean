import Transit.Hafas.Client
import Transit.Provider
/-! Departure boards of a station and of the stops around it. -/
namespace Transit.Hafas

/-- A board that is being filled. -/
structure Block where
  location : Location
  departures : List Departure

/-- Puts a departure onto the first board with the same location id, else onto a new one. -/
def fileUnder (l : Location) (d : Departure) : List Block → List Block
  | [] => [⟨l, [d]⟩]
  | b :: rest =>
    if b.location.id = l.id then { b with departures := b.departures ++ [d] } :: rest
    else b :: fileUnder l d rest

/-- The board a departure belongs to: that of its stop, if this is the station or if boards of
other stops are wanted, else that of the station. -/
def boardOf (q : DeparturesQuery) : Option Location → Location
  | some l =>
    if q.equivalentStations || l.id = some q.stationId then l else Location.station q.stationId
  | none => Location.station q.stationId

def fileDeparture (q : DeparturesQuery) (blocks : List Block)
    (entry : Option Location × Departure) : List Block :=
  fileUnder (boardOf q entry.1) entry.2 blocks

/-- The readable departures, by boards. -/
def blocksOf (q : DeparturesQuery) (raw : List Json) : List Block :=
  (raw.filterMap departureOf?).foldl (fileDeparture q) []

/-- The lines are those of all departures, not only of those that are kept. -/
def Block.toBoard (limit : Nat) (b : Block) : StationDepartures :=
  (StationDepartures.build b.location b.departures).withOwnLines.truncate limit

namespace Client

variable {σ : Type}

def fetchBoard (c : Client) (backend : Backend σ) (q : DeparturesQuery) :
    Fetched σ DeparturesAnswer := do
  let (_, answer) ← c.fetchAs backend DeparturesAnswer.ofJson? ["stops", q.stationId, "departures"]
    (boardParams c.config q (c.limit q.maxDepartures))
  return answer

/-- Failures of the backend are told by the status. -/
def boardsResult (c : Client) (q : DeparturesQuery) :
    Except Error DeparturesAnswer → DeparturesResult
  | .ok answer =>
    .found (c.header answer.updatedAt)
      ((blocksOf q answer.departures).map (Block.toBoard (c.limit q.maxDepartures)))
  | .error e =>
    if e.isNotFound then .invalidStation (c.header none) else .serviceDown (c.header none)

def queryDepartures (c : Client) (backend : Backend σ) (q : DeparturesQuery) :
    StateM σ (Outcome DeparturesResult) :=
  match q.validate with
  | .error e => return .error e
  | .ok () => do return .ok (c.boardsResult q (← c.fetchBoard backend q))

end Transit.Hafas.Client
