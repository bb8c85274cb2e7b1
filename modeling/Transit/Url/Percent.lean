import Transit.Text
/-! Percent encoding: a byte that must not stand for itself is written as two hexadecimal digits.
Each part of a URL has its own set of such bytes; bytes beyond ASCII are in every set. -/
namespace Transit.Url.Percent

/-- The bytes of a character in UTF-8. -/
def bytes (c : Char) : List UInt8 := String.utf8EncodeChar c

def upperHex (n : Nat) : Char := if n < 10 then Char.ofNat (48 + n) else Char.ofNat (55 + n)

def encodeByte (b : UInt8) : List Char := ['%', upperHex (b.toNat / 16), upperHex (b.toNat % 16)]

/-- A predicate on ASCII characters: these are encoded. -/
abbrev Reserved := Char → Bool

def encodeChar (reserved : Reserved) (c : Char) : List Char :=
  if c.toNat < 0x80 && !reserved c then [c] else (bytes c).flatMap encodeByte

def encode (reserved : Reserved) (cs : List Char) : List Char := cs.flatMap (encodeChar reserved)

def control : Reserved := fun c => c.toNat < 0x20 || c.toNat == 0x7F

def inFragment : Reserved := fun c =>
  control c || c == ' ' || c == '"' || c == '<' || c == '>' || c == '\x60'

def inQuery : Reserved := fun c =>
  control c || c == ' ' || c == '"' || c == '#' || c == '<' || c == '>'

def inSpecialQuery : Reserved := fun c => inQuery c || c == '\''

def inPath : Reserved := fun c =>
  inFragment c || c == '#' || c == '?' || c == '\x7b' || c == '\x7d'

def inUserInfo : Reserved := fun c =>
  inPath c || c == '/' || c == ':' || c == ';' || c == '=' || c == '@' || c == '[' || c == '\\' ||
    c == ']' || c == '^' || c == '|'

/-- Within one segment that is appended to a path. -/
def inSegment : Reserved := fun c => inPath c || c == '/' || c == '%'

def inSpecialSegment : Reserved := fun c => inSegment c || c == '\\'

/-- The bytes that a text stands for, with encoded ones taken back. -/
def decodeBytes : List Char → List UInt8
  | [] => []
  | '%' :: a :: b :: rest => match Text.hexValue? a, Text.hexValue? b with
    | some x, some y => UInt8.ofNat (x * 16 + y) :: decodeBytes rest
    | _, _ => 37 :: decodeBytes (a :: b :: rest)
  | c :: rest => bytes c ++ decodeBytes rest

/-- None when the decoded bytes are no text. -/
def decode? (cs : List Char) : Option (List Char) :=
  (String.fromUTF8? ⟨(decodeBytes cs).toArray⟩).map String.toList

end Transit.Url.Percent
