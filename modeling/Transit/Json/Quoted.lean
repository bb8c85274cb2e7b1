import Transit.Text
/-! Texts in quotation marks, with the escapes of JSON. -/
namespace Transit.Json.Quoted

def hexDigit (n : Nat) : Char := if n < 10 then Char.ofNat (48 + n) else Char.ofNat (87 + n)

/-- Quote, backslash and control characters are escaped, the rest stands for itself. -/
def encodeChar (c : Char) : List Char :=
  if c = '"' then ['\\', '"']
  else if c = '\\' then ['\\', '\\']
  else if c = '\x08' then ['\\', 'b']
  else if c = '\x0c' then ['\\', 'f']
  else if c = '\n' then ['\\', 'n']
  else if c = '\r' then ['\\', 'r']
  else if c = '\t' then ['\\', 't']
  else if c.toNat < 32 then
    ['\\', 'u', '0', '0', hexDigit (c.toNat / 16), hexDigit (c.toNat % 16)]
  else [c]

/-- The text with its escapes and the closing quote. -/
def encodeTail : List Char → List Char
  | [] => ['"']
  | c :: cs => encodeChar c ++ encodeTail cs

def encode (cs : List Char) : List Char := '"' :: encodeTail cs

def hex4? (a b c d : Char) : Option Nat :=
  match Text.hexValue? a, Text.hexValue? b, Text.hexValue? c, Text.hexValue? d with
  | some a, some b, some c, some d => some (((a * 16 + b) * 16 + c) * 16 + d)
  | _, _, _, _ => none

/-- The character that a letter behind a backslash stands for. -/
def escaped? (c : Char) : Option Char :=
  if c = '"' || c = '\\' || c = '/' then some c
  else if c = 'b' then some '\x08'
  else if c = 'f' then some '\x0c'
  else if c = 'n' then some '\n'
  else if c = 'r' then some '\r'
  else if c = 't' then some '\t'
  else none

def prepend (n : Nat) : Option (List Nat × List Char) → Option (List Nat × List Char)
  | some (units, rest) => some (n :: units, rest)
  | none => none

/-- The code points and surrogates up to the closing quote, and the text behind it. -/
def units? : List Char → Option (List Nat × List Char)
  | [] => none
  | '"' :: cs => some ([], cs)
  | '\\' :: 'u' :: a :: b :: c :: d :: cs => match hex4? a b c d with
    | some n => prepend n (units? cs)
    | none => none
  | '\\' :: e :: cs => match escaped? e with
    | some c => prepend c.toNat (units? cs)
    | none => none
  | c :: cs => if c.toNat < 32 || c = '\\' then none else prepend c.toNat (units? cs)

def isHigh (n : Nat) : Bool := 0xD800 ≤ n && n ≤ 0xDBFF

def isLow (n : Nat) : Bool := 0xDC00 ≤ n && n ≤ 0xDFFF

/-- Joins surrogate pairs; none when a surrogate stands alone. -/
def scalars? : List Nat → Option (List Char)
  | [] => some []
  | [n] => if isHigh n || isLow n then none else some [Char.ofNat n]
  | n :: m :: rest =>
    if isHigh n then
      if isLow m then
        (scalars? rest).map (Char.ofNat (0x10000 + (n - 0xD800) * 0x400 + (m - 0xDC00)) :: ·)
      else none
    else if isLow n then none
    else (scalars? (m :: rest)).map (Char.ofNat n :: ·)

end Transit.Json.Quoted
