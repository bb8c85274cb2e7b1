import Transit.Json.Number
import Transit.Json.Quoted
/-! Writing JSON: compactly, or with one item or field a line. -/
namespace Transit.Json

def intChars (n : Int) : List Char :=
  if n < 0 then '-' :: Text.digits n.natAbs else Text.digits n.natAbs

def stringChars (s : String) : List Char := Quoted.encode s.toList

mutual

def chars : Json → List Char
  | .null | .refused => "null".toList
  | .bool b => if b then "true".toList else "false".toList
  | .int n => intChars n
  | .float x => (floatText x).toList
  | .str s => stringChars s
  | .arr [] => ['[', ']']
  | .arr (j :: rest) => '[' :: (chars j ++ itemsTail rest)
  | .obj [] => ['\x7b', '\x7d']
  | .obj ((name, j) :: rest) =>
    '\x7b' :: (stringChars name ++ ':' :: (chars j ++ fieldsTail rest))

def itemsTail : List Json → List Char
  | [] => [']']
  | j :: rest => ',' :: (chars j ++ itemsTail rest)

def fieldsTail : List (String × Json) → List Char
  | [] => ['\x7d']
  | (name, j) :: rest => ',' :: (stringChars name ++ ':' :: (chars j ++ fieldsTail rest))

end

/-- Without any blank. -/
def compact (j : Json) : String := String.ofList (chars j)

def newLine (depth : Nat) : List Char := '\n' :: List.replicate (2 * depth) ' '

mutual

def prettyChars (depth : Nat) : Json → List Char
  | .arr (j :: rest) =>
    '[' :: (newLine (depth + 1) ++ prettyChars (depth + 1) j ++ prettyItems depth rest)
  | .obj ((name, j) :: rest) =>
    '\x7b' :: (newLine (depth + 1) ++ stringChars name ++ ':' :: ' ' ::
      (prettyChars (depth + 1) j ++ prettyFields depth rest))
  | j => chars j

def prettyItems (depth : Nat) : List Json → List Char
  | [] => newLine depth ++ [']']
  | j :: rest =>
    ',' :: (newLine (depth + 1) ++ prettyChars (depth + 1) j ++ prettyItems depth rest)

def prettyFields (depth : Nat) : List (String × Json) → List Char
  | [] => newLine depth ++ ['\x7d']
  | (name, j) :: rest =>
    ',' :: (newLine (depth + 1) ++ stringChars name ++ ':' :: ' ' ::
      (prettyChars (depth + 1) j ++ prettyFields depth rest))

end

/-- One item or field a line, two blanks for each level. -/
def pretty (j : Json) : String := String.ofList (prettyChars 0 j)

end Transit.Json
