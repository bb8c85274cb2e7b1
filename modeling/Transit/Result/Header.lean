import Transit.Instant.Text
/-! Which backend answered, and when. -/
namespace Transit

structure ResultHeader where
  network : String
  serverProduct : String
  serverVersion : Option String := none
  serverTime : Option Instant := none
deriving DecidableEq

namespace ResultHeader

def toJson (h : ResultHeader) : Json :=
  .obj ([("network", .str h.network), ("server_product", .str h.serverProduct)] ++
    Json.optionalField "server_version" Json.str h.serverVersion ++
    Json.optionalField "server_time" Instant.toJson h.serverTime)

def ofJson? (j : Json) : Option ResultHeader := do
  let r ← j.record? ["network", "server_product", "server_version", "server_time"]
  some {
    network := ← r.required "network" Json.string?
    serverProduct := ← r.required "server_product" Json.string?
    serverVersion := ← r.omissible "server_version" Json.string?
    serverTime := ← r.omissible "server_time" Instant.ofJson? }

end Transit.ResultHeader
