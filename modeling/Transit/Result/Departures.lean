import Transit.Board
import Transit.Result.Header
import Transit.Result.Status
/-! Results of departure queries. -/
namespace Transit

structure DeparturesResult where
  header : ResultHeader
  status : DeparturesStatus
  boards : List StationDepartures

namespace DeparturesResult

def found (header : ResultHeader) (boards : List StationDepartures) : DeparturesResult :=
  ⟨header, .ok, boards⟩

def invalidStation (header : ResultHeader) : DeparturesResult := ⟨header, .invalidStation, []⟩

def serviceDown (header : ResultHeader) : DeparturesResult := ⟨header, .serviceDown, []⟩

def toJson (r : DeparturesResult) : Json :=
  .obj [("header", r.header.toJson), ("status", .str r.status.name),
    ("station_departures", Json.list StationDepartures.toJson r.boards)]

def ofJson? (j : Json) : Option DeparturesResult := do
  let r ← j.record? ["header", "status", "station_departures"]
  some {
    header := ← r.required "header" ResultHeader.ofJson?
    status := ← r.required "status" DeparturesStatus.ofJson?
    boards := ← r.required "station_departures" (Json.list? StationDepartures.ofJson?) }

end Transit.DeparturesResult
