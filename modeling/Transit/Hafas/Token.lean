import Transit.Context
/-! The state of a journey search that is continued page by page. -/
namespace Transit.Hafas

/-- Name of the provider, and mark of its contexts. -/
def providerName : String := "hafas"

abbrev Params := List (String × String)

/-- The parameters of the first request without its time, and the references from which the
backend goes on at both ends. -/
structure JourneyToken where
  params : Params
  earlierRef : Option String
  laterRef : Option String
deriving DecidableEq

namespace JourneyToken

def reference (t : JourneyToken) : Direction → Option String
  | .later => t.laterRef
  | .earlier => t.earlierRef

/-- After a page in one direction, which brought two references; the other end stays. -/
def advance (t : JourneyToken) (direction : Direction) (earlierRef laterRef : Option String) :
    JourneyToken :=
  match direction with
  | .later => { t with laterRef }
  | .earlier => { t with earlierRef }

def paramToJson (p : String × String) : Json := .arr [.str p.1, .str p.2]

def paramOfJson? : Json → Option (String × String)
  | .arr [.str key, .str value] => some (key, value)
  | _ => none

def toJson (t : JourneyToken) : Json :=
  .obj [("params", Json.list paramToJson t.params),
    ("earlier_ref", Json.ofOption Json.str t.earlierRef),
    ("later_ref", Json.ofOption Json.str t.laterRef)]

def ofJson? (j : Json) : Option JourneyToken := do
  let r ← j.record? ["params", "earlier_ref", "later_ref"]
  some {
    params := ← r.required "params" (Json.list? paramOfJson?)
    earlierRef := ← r.optional "earlier_ref" Json.string?
    laterRef := ← r.optional "later_ref" Json.string? }

/-- A direction is open when there is a reference to go on from. -/
def toContext (t : JourneyToken) : TripsContext :=
  { provider := providerName
    canQueryEarlier := t.earlierRef.isSome
    canQueryLater := t.laterRef.isSome
    token := ContextToken.encode t.toJson }

def ofContext (c : TripsContext) : Except ProviderError JourneyToken := c.token.decode ofJson?

end Transit.Hafas.JourneyToken
