import Transit.Hafas.Client
import Transit.Point.Distance
import Transit.Provider
/-! Locations by name, and locations around a point. -/
namespace Transit.Hafas.Client

variable {σ : Type}

/-- Priorities that fall from the number of locations to 1, as far as they fit. -/
def ranking : List Location → List SuggestedLocation
  | [] => []
  | l :: rest => ⟨l, Int32.ofInt (min (rest.length + 1) (twoTo 31 - 1))⟩ :: ranking rest

/-- The backend's order is its ranking. A blank text suggests nothing. -/
def suggestLocations (c : Client) (backend : Backend σ) (q : SuggestQuery) :
    StateM σ (Outcome SuggestResult) :=
  if Text.isBlankText q.words then return .ok (.found (c.header none) [])
  else do
    match ← c.search backend (Text.trim q.words) q.types (c.limit q.maxResults) with
    | .error e => return .error e.toProviderError
    | .ok locations => return .ok (.found (c.header none) (ranking locations))

def farthest : UInt32 := 0xFFFFFFFF

/-- The distance that the backend reports, else the one to the coordinate, else none that is
greater. -/
def distanceOf (center : Point) (l : Location) (reported : Option UInt32) : UInt32 :=
  (reported <|> l.coordinate.map center.meters).getD farthest

/-- The readable ones of some locations, as far as their types are wanted, with their distances. -/
def measured (center : Point) (types : LocationTypes) (raw : List RawLocation) :
    List (UInt32 × Location) :=
  (raw.filterMap fun r => r.toLocation?.map fun l => (distanceOf center l r.distance, l)).filter
    fun (_, l) => types.contains l.kind

def closerFirst (a b : UInt32 × Location) : Bool := a.1 ≤ b.1

/-- The closest locations; those at one distance stay in their order. -/
def closest (limit : Nat) (located : List (UInt32 × Location)) : List Location :=
  ((located.mergeSort closerFirst).take limit).map Prod.snd

/-- The point to search around, if the anchor has one that is known. -/
def center (c : Client) (backend : Backend σ) (anchor : Location) : Fetched σ (Option Point) :=
  match anchor.coordinate, anchor.id with
  | some p, _ => return some p
  | none, some id => tryCatch (c.stationCoordinate backend id) fun e =>
    if e.isNotFound then return none else throw e
  | none, none => return none

/-- None when there is nothing to search around. -/
def nearby (c : Client) (backend : Backend σ) (q : NearbyQuery) :
    Fetched σ (Option (List Location)) := do
  match ← c.center backend q.anchor with
  | none => return none
  | some center =>
    let limit := c.limit q.maxResults
    let (_, raw) ← c.fetchAs backend (Json.list? RawLocation.ofJson?) ["locations", "nearby"]
      (nearbyParams c.config q center limit)
    return some (closest limit (measured center q.types raw))

def queryNearby (c : Client) (backend : Backend σ) (q : NearbyQuery) :
    StateM σ (Outcome NearbyResult) :=
  match q.validate with
  | .error e => return .error e
  | .ok () => do
    match ← c.nearby backend q with
    | .error e => return .error e.toProviderError
    | .ok none => return .ok (.invalidId (c.header none))
    | .ok (some locations) => return .ok (.found (c.header none) locations)

end Transit.Hafas.Client
