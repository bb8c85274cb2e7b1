import Transit.Binary64.Decimal
import Transit.Instant.Text
import Transit.Json
/-! Booleans, numbers, dates and times of TOML. -/
namespace Transit.Toml

/-- Digits, without the underscores that stand between two of them. -/
def ungroup? (isDigit : Char → Bool) : List Char → Option (List Char)
  | [] => none
  | [c] => if isDigit c then some [c] else none
  | c :: '_' :: rest => if isDigit c then (ungroup? isDigit rest).map (c :: ·) else none
  | c :: rest => if isDigit c then (ungroup? isDigit rest).map (c :: ·) else none

def signOf : List Char → Bool × List Char
  | '-' :: rest => (true, rest)
  | '+' :: rest => (false, rest)
  | cs => (false, cs)

/-- Digits without a superfluous zero in front. -/
def wholePart? (cs : List Char) : Option (List Char) :=
  match ungroup? Text.isDigit cs with
  | some ('0' :: _ :: _) => none
  | ds => ds

/-- Digits in a base up to sixteen. -/
def inBase? (base : Nat) (cs : List Char) : Option Int := do
  let isDigit := fun c => (Text.hexValue? c).any (· < base)
  let ds ← ungroup? isDigit cs
  some (ds.foldl (fun n c => n * base + (Text.hexValue? c).getD 0) 0 : Nat)

def integer? : List Char → Option Int
  | '0' :: 'x' :: rest => inBase? 16 rest
  | '0' :: 'o' :: rest => inBase? 8 rest
  | '0' :: 'b' :: rest => inBase? 2 rest
  | cs => do
    let (negative, rest) := signOf cs
    let n := Text.decimalValue (← wholePart? rest)
    some (if negative then -(n : Int) else n)

def isExponentMark (c : Char) : Bool := c == 'e' || c == 'E'

/-- Whole part and optional fraction. -/
def isMantissa (cs : List Char) : Bool :=
  match Text.splitAt? (· == '.') cs with
  | some (whole, fraction) => (wholePart? whole).isSome && (ungroup? Text.isDigit fraction).isSome
  | none => (wholePart? cs).isSome

/-- Digits with a fraction or an exponent or both. -/
def isDecimal (cs : List Char) : Bool :=
  match Text.splitAt? isExponentMark cs with
  | some (mantissa, exponent) =>
    isMantissa mantissa && (ungroup? Text.isDigit (signOf exponent).2).isSome
  | none => cs.contains '.' && isMantissa cs

def float? (cs : List Char) : Option Binary64 :=
  let rest := (signOf cs).2
  if rest = "inf".toList || rest = "nan".toList || isDecimal rest then
    Binary64.ofText? (String.ofList (cs.filter (· != '_')))
  else none

def date? (cs : List Char) : Option (List Char) := do
  let (century, cs) ← Instant.twoDigits? cs
  let (year, cs) ← Instant.twoDigits? cs
  let cs ← Instant.behind? '-' cs
  let (month, cs) ← Instant.twoDigits? cs
  let cs ← Instant.behind? '-' cs
  let (day, cs) ← Instant.twoDigits? cs
  if (Date.mk (century * 100 + year) month day).isReal then some cs else none

def fraction? : List Char → Option (List Char)
  | '.' :: cs => if (cs.head?.any Text.isDigit) then some (cs.dropWhile Text.isDigit) else none
  | cs => some cs

def seconds? : List Char → Option (List Char)
  | ':' :: cs => do
    let (second, cs) ← Instant.twoDigits? cs
    if second ≤ 60 then fraction? cs else none
  | cs => some cs

def clock? (cs : List Char) : Option (List Char) := do
  let (hour, cs) ← Instant.twoDigits? cs
  let cs ← Instant.behind? ':' cs
  let (minute, cs) ← Instant.twoDigits? cs
  if hour ≤ 23 ∧ minute ≤ 59 then some cs else none

def isOffset : List Char → Bool
  | [] | ['Z'] | ['z'] => true
  | '+' :: cs | '-' :: cs => clock? cs = some []
  | _ => false

def isTime (cs : List Char) : Bool := (clock? cs).bind seconds? = some []

/-- A date, a time, or both with an optional offset. -/
def isMoment (cs : List Char) : Bool :=
  match date? cs with
  | some [] => true
  | some (c :: rest) =>
    (c == 'T' || c == 't' || c == ' ') && ((clock? rest).bind seconds?).any isOffset
  | none => isTime cs

/-- Whole numbers fit into 128 bits, with or without a sign. -/
def isNumber (n : Int) : Bool := -twoTo 127 ≤ n && n < twoTo 128

/-- A number is infinite only if it is called so. -/
def isWritten (cs : List Char) (x : Binary64) : Bool := x.isFinite || !cs.any Text.isDigit

/-- Dates and times are records with none of the fields that anybody asks for. -/
def scalar? (cs : List Char) : Option Json :=
  if cs = "true".toList then some (.bool true)
  else if cs = "false".toList then some (.bool false)
  else match integer? cs with
    | some n => some (if isNumber n then .int n else .refused)
    | none => match float? cs with
      | some x => some (if isWritten cs x then .float x else .refused)
      | none => if isMoment cs then some (.obj []) else none

def isScalarChar (c : Char) : Bool :=
  c.isAlphanum || c == '_' || c == '+' || c == '-' || c == '.' || c == ':'

/-- The characters of a scalar. One blank may stand between a date and a time. -/
def scalarChars (cs : List Char) : List Char :=
  let token := cs.takeWhile isScalarChar
  match cs.drop token.length with
  | ' ' :: c :: rest =>
    if date? token = some [] && Text.isDigit c then
      token ++ ' ' :: (c :: rest).takeWhile isScalarChar
    else token
  | _ => token

end Transit.Toml
