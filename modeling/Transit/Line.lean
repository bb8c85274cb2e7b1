import Transit.Product
import Transit.Style
/-! Lines of public transport. -/
namespace Transit

structure Line where
  id : Option String := none
  network : Option String := none
  product : Option Product := none
  label : Option String := none
  name : Option String := none
  style : Option Style := none
  message : Option String := none
deriving DecidableEq

namespace Line

def text (l : Line) : String :=
  let label := (l.label <|> l.name).getD "?"
  match l.product with
  | some p => label ++ " (" ++ p.label ++ ")"
  | none => label

def toJson (l : Line) : Json :=
  .obj (Json.optionalField "id" Json.str l.id ++
    Json.optionalField "network" Json.str l.network ++
    Json.optionalField "product" Product.toJson l.product ++
    Json.optionalField "label" Json.str l.label ++
    Json.optionalField "name" Json.str l.name ++
    Json.optionalField "style" Style.toJson l.style ++
    Json.optionalField "message" Json.str l.message)

def ofJsonWith? (blank : Json.Blank) (j : Json) : Option Line := do
  let r ← j.record? ["id", "network", "product", "label", "name", "style", "message"]
  some {
    id := ← r.omissible "id" Json.string?
    network := ← r.omissible "network" Json.string?
    product := ← r.omissible "product" (Product.ofJsonWith? blank)
    label := ← r.omissible "label" Json.string?
    name := ← r.omissible "name" Json.string?
    style := ← r.omissible "style" (Style.ofJsonWith? blank)
    message := ← r.omissible "message" Json.string? }

def ofJson? : Json → Option Line := ofJsonWith? .null

end Transit.Line
