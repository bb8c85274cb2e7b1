import Transit.Json.Reader
import Transit.Text.Utf8
/-! JSON in bytes. What is no UTF-8 may only stand in strings, and such a string is refused. -/
namespace Transit.Json.Bytes

/-- Where a text is being read: outside of strings, in one, or behind a backslash in one. -/
inductive Place
  | outside | inside | escaped
deriving DecidableEq

def Place.next (p : Place) (c : Char) : Place :=
  match p with
  | .outside => if c = '"' then .inside else .outside
  | .inside => if c = '"' then .outside else if c = '\\' then .escaped else .inside
  | .escaped => .inside

/-- Two first halves of a surrogate pair, which no second half can complete. -/
def broken : List Char := "\\ud800\\ud800".toList

/-- The text, with broken characters in strings for what is no UTF-8. -/
def mend? : Place → List Text.Utf8.Piece → Option (List Char)
  | _, [] => some []
  | p, some c :: rest => (mend? (p.next c) rest).map (c :: ·)
  | .inside, none :: rest => (mend? .inside rest).map (broken ++ ·)
  | _, none :: _ => none

end Bytes

def ofBytes? (bytes : List UInt8) : Option Json :=
  (Bytes.mend? .outside (Text.Utf8.pieces bytes)).bind ofChars?

end Transit.Json
