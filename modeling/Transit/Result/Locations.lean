import Transit.Location
import Transit.Result.Header
import Transit.Result.Status
/-! Results of location queries. -/
namespace Transit

structure SuggestResult where
  header : ResultHeader
  status : SuggestStatus
  suggestions : List SuggestedLocation

namespace SuggestResult

/-- The first suggestion of each location. -/
def uniqueFrom (known : List SuggestedLocation) :
    List SuggestedLocation → List SuggestedLocation
  | [] => known
  | s :: rest =>
    if known.any (·.location == s.location) then uniqueFrom known rest
    else uniqueFrom (known ++ [s]) rest

/-- Each location once, by falling priority; equal priorities stay in their order. -/
def ranked (suggestions : List SuggestedLocation) : List SuggestedLocation :=
  (uniqueFrom [] suggestions).mergeSort fun a b => b.priority ≤ a.priority

def found (header : ResultHeader) (suggestions : List SuggestedLocation) : SuggestResult :=
  ⟨header, .ok, ranked suggestions⟩

def toJson (r : SuggestResult) : Json :=
  .obj [("header", r.header.toJson), ("status", .str r.status.name),
    ("suggested_locations", Json.list SuggestedLocation.toJson r.suggestions)]

def ofJson? (j : Json) : Option SuggestResult := do
  let r ← j.record? ["header", "status", "suggested_locations"]
  some {
    header := ← r.required "header" ResultHeader.ofJson?
    status := ← r.required "status" SuggestStatus.ofJson?
    suggestions := ← r.required "suggested_locations" (Json.list? SuggestedLocation.ofJson?) }

end SuggestResult

structure NearbyResult where
  header : ResultHeader
  status : NearbyStatus
  locations : List Location

namespace NearbyResult

def found (header : ResultHeader) (locations : List Location) : NearbyResult :=
  ⟨header, .ok, locations⟩

/-- The place to search around is not known. -/
def invalidId (header : ResultHeader) : NearbyResult := ⟨header, .invalidId, []⟩

def toJson (r : NearbyResult) : Json :=
  .obj [("header", r.header.toJson), ("status", .str r.status.name),
    ("locations", Json.list Location.toJson r.locations)]

def ofJson? (j : Json) : Option NearbyResult := do
  let r ← j.record? ["header", "status", "locations"]
  some {
    header := ← r.required "header" ResultHeader.ofJson?
    status := ← r.required "status" NearbyStatus.ofJson?
    locations := ← r.required "locations" (Json.list? Location.ofJson?) }

end Transit.NearbyResult
