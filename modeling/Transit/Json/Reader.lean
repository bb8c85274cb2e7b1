import Transit.Json.Number
import Transit.Json.Quoted
/-! Reading JSON. The whole text has to be one value; what is well formed but out of bounds becomes
`refused` at its place. -/
namespace Transit.Json

def isGap (c : Char) : Bool := c == ' ' || c == '\n' || c == '\t' || c == '\r'

def skipGap (cs : List Char) : List Char := cs.dropWhile isGap

/-- Containers may be nested this deep. -/
def deepest : Nat := 127

def contained (depth : Nat) (j : Json) : Json := if depth < deepest then j else .refused

/-- The text behind a word. -/
def word? (word : List Char) (cs : List Char) : Option (List Char) :=
  if word.isPrefixOf cs then some (cs.drop word.length) else none

/-- A text behind its opening quote; none inside stands for a lone surrogate. -/
def quoted? (cs : List Char) : Option (Option String × List Char) :=
  match Quoted.units? cs with
  | some (units, rest) => some ((Quoted.scalars? units).map String.ofList, rest)
  | none => none

/-- An object, refused when one of its names is. -/
def ofFields (fields : List (Option String × Json)) : Json :=
  if fields.all (·.1.isSome) then .obj (fields.map fun f => (f.1.getD "", f.2)) else .refused

mutual

/-- One value, inside `depth` containers, and the text behind it. -/
def value? : Nat → Nat → List Char → Option (Json × List Char)
  | 0, _, _ => none
  | fuel + 1, depth, cs => match skipGap cs with
    | '{' :: rest => match skipGap rest with
      | '}' :: rest => some (contained depth (.obj []), rest)
      | cs => match fields? fuel (depth + 1) cs with
        | some (fields, rest) => some (contained depth (ofFields fields), rest)
        | none => none
    | '[' :: rest => match skipGap rest with
      | ']' :: rest => some (contained depth (.arr []), rest)
      | cs => match items? fuel (depth + 1) cs with
        | some (items, rest) => some (contained depth (.arr items), rest)
        | none => none
    | '"' :: rest => match quoted? rest with
      | some (some s, rest) => some (.str s, rest)
      | some (none, rest) => some (.refused, rest)
      | none => none
    | 'n' :: rest => (word? "ull".toList rest).map fun rest => (.null, rest)
    | 't' :: rest => (word? "rue".toList rest).map fun rest => (.bool true, rest)
    | 'f' :: rest => (word? "alse".toList rest).map fun rest => (.bool false, rest)
    | cs => (Numeral.read? cs).map fun (n, rest) => (n.value, rest)

/-- The items up to the closing bracket; there is at least one. -/
def items? : Nat → Nat → List Char → Option (List Json × List Char)
  | 0, _, _ => none
  | fuel + 1, depth, cs => match value? fuel depth cs with
    | none => none
    | some (j, rest) => match skipGap rest with
      | ']' :: rest => some ([j], rest)
      | ',' :: rest => match items? fuel depth rest with
        | some (items, rest) => some (j :: items, rest)
        | none => none
      | _ => none

/-- The fields up to the closing brace; there is at least one. -/
def fields? : Nat → Nat → List Char → Option (List (Option String × Json) × List Char)
  | 0, _, _ => none
  | fuel + 1, depth, cs => match skipGap cs with
    | '"' :: rest => match quoted? rest with
      | none => none
      | some (name, rest) => match skipGap rest with
        | ':' :: rest => match value? fuel depth rest with
          | none => none
          | some (j, rest) => match skipGap rest with
            | '}' :: rest => some ([(name, j)], rest)
            | ',' :: rest => match fields? fuel depth rest with
              | some (fields, rest) => some ((name, j) :: fields, rest)
              | none => none
            | _ => none
        | _ => none
    | _ => none

end

def ofChars? (cs : List Char) : Option Json :=
  match value? (2 * cs.length + 2) 0 cs with
  | some (j, rest) => if rest.all isGap then some j else none
  | none => none

def ofText? (s : String) : Option Json := ofChars? s.toList

end Transit.Json
