import Transit.Json.Record
/-! Platforms and tracks. -/
namespace Transit

structure Position where
  name : String
  part : Option String
deriving DecidableEq

namespace Position

def text (p : Position) : String :=
  match p.part with
  | some part => p.name ++ " " ++ part
  | none => p.name

def toJson (p : Position) : Json :=
  .obj (("name", .str p.name) :: Json.optionalField "section" Json.str p.part)

def ofJson? (j : Json) : Option Position := do
  let r ← j.record? ["name", "section"]
  some ⟨← r.required "name" Json.string?, ← r.omissible "section" Json.string?⟩

end Transit.Position
