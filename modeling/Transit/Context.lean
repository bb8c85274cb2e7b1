import Transit.Json.Bytes
import Transit.Json.Writer
import Transit.ProviderError
import Transit.Text.Utf8
import Transit.Text.Visible
import Transit.Window
/-! Contexts of trip sessions: whose session it is, where it can be continued, what has been seen,
and a token that only the provider itself looks into. -/
namespace Transit

/-- The bytes of a state in JSON. -/
structure ContextToken where
  bytes : List UInt8
deriving DecidableEq

namespace ContextToken

def encode (state : Json) : ContextToken := ⟨state.compact.toUTF8.toList⟩

def corrupt : ProviderError := .precondition "foreign or corrupt context"

def decode (read : Json → Option α) (t : ContextToken) : Except ProviderError α :=
  match (Json.ofBytes? t.bytes).bind read with
  | some a => .ok a
  | none => .error corrupt

def toJson (t : ContextToken) : Json := Json.list (fun b : UInt8 => .nat b.toNat) t.bytes

def ofJson? (j : Json) : Option ContextToken := (j.list? Json.uint8?).map (⟨·⟩)

/-- The bytes as a text to look at. -/
def text (t : ContextToken) : String := Text.Utf8.decode t.bytes

def describe (t : ContextToken) : String :=
  "ContextToken([" ++ ", ".intercalate (t.bytes.map fun b => toString b.toNat) ++ "])"

end ContextToken

structure TripsContext where
  provider : String
  canQueryEarlier : Bool
  canQueryLater : Bool
  token : ContextToken
  window : Option DepartureWindow := none
deriving DecidableEq

namespace TripsContext

def isOpen (c : TripsContext) : Direction → Bool
  | .later => c.canQueryLater
  | .earlier => c.canQueryEarlier

/-- Only an open direction can be queried. -/
def ensureOpen (c : TripsContext) (direction : Direction) : Except ProviderError Unit :=
  if c.isOpen direction then .ok ()
  else .error (.precondition ("context cannot query " ++ direction.name ++ " trips"))

def toJson (c : TripsContext) : Json :=
  .obj ([("provider", .str c.provider), ("can_query_earlier", .bool c.canQueryEarlier),
    ("can_query_later", .bool c.canQueryLater), ("token", c.token.toJson)] ++
    Json.optionalField "window" DepartureWindow.toJson c.window)

def ofJson? (j : Json) : Option TripsContext := do
  let r ← j.record? ["provider", "can_query_earlier", "can_query_later", "token", "window"]
  some {
    provider := ← r.required "provider" Json.string?
    canQueryEarlier := ← r.required "can_query_earlier" Json.bool?
    canQueryLater := ← r.required "can_query_later" Json.bool?
    token := ← r.required "token" ContextToken.ofJson?
    window := ← r.omissible "window" DepartureWindow.ofJson? }

def describeBool (b : Bool) : String := if b then "true" else "false"

def describe (c : TripsContext) : String :=
  "TripsContext \x7b provider: " ++ Text.Visible.quoted c.provider ++
    ", can_query_earlier: " ++ describeBool c.canQueryEarlier ++
    ", can_query_later: " ++ describeBool c.canQueryLater ++
    ", token: " ++ c.token.describe ++
    ", window: " ++ (match c.window with
      | some w => "Some(" ++ w.describe ++ ")"
      | none => "None") ++ " \x7d"

end Transit.TripsContext
