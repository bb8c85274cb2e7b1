import Transit.Instant
import Transit.Json.Record
import Transit.Text
/-! Date and time as text: written in UTC with as many groups of three fraction digits as needed,
read with any offset and with some freedom in blanks and leading zeros. A step of reading gives a
value and the text behind it. In JSON an instant is its text. -/
namespace Transit.Instant

/-- Four digits, and a sign when the year has more than that or lies before year 0. -/
def yearText (year : Int) : List Char :=
  if 0 ≤ year ∧ year ≤ 9999 then Text.paddedDigits 4 year.toNat
  else
    let ds := Text.digits year.natAbs
    (if year < 0 then '-' else '+') :: (List.replicate (4 - ds.length) '0' ++ ds)

def fractionText (nano : Nat) : List Char :=
  if nano = 0 then []
  else if nano % 1000000 = 0 then '.' :: Text.paddedDigits 3 (nano / 1000000)
  else if nano % 1000 = 0 then '.' :: Text.paddedDigits 6 (nano / 1000)
  else '.' :: Text.paddedDigits 9 nano

def dateText (d : Date) : List Char :=
  yearText d.year ++ '-' :: Text.paddedDigits 2 d.month ++ '-' :: Text.paddedDigits 2 d.day

/-- Hour and minute. -/
def clockText (t : Instant) : List Char :=
  let s := t.secondOfDay.toNat
  Text.paddedDigits 2 (s / 3600) ++ ':' :: Text.paddedDigits 2 (s / 60 % 60)

/-- Date and time of day; a leap second has the number 60. -/
def localText (t : Instant) : List Char :=
  let (extra, nano) := if 1000000000 ≤ t.nano then (1, t.nano - 1000000000) else (0, t.nano)
  dateText t.date ++ 'T' :: t.clockText ++ ':' ::
    Text.paddedDigits 2 (t.secondOfDay.toNat % 60 + extra) ++ fractionText nano

def clock (t : Instant) : String := String.ofList t.clockText

def text (t : Instant) : String := String.ofList (t.localText ++ ['Z'])

/-- With a numeric offset in place of the letter Z. -/
def offsetText (t : Instant) : String := String.ofList (t.localText ++ "+00:00".toList)

/-- At least one digit, and at most `most`. -/
def number? (most : Nat) (cs : List Char) : Option (Nat × List Char) :=
  let ds := (cs.take most).takeWhile Text.isDigit
  if ds.isEmpty then none else some (Text.decimalValue ds, cs.drop ds.length)

/-- A sign lifts the limit on the digits of a year. -/
def year? (cs : List Char) : Option (Int × List Char) :=
  match cs with
  | '-' :: rest => (number? rest.length rest).map fun (n, r) => (-(n : Int), r)
  | '+' :: rest => (number? rest.length rest).map fun (n, r) => ((n : Int), r)
  | _ => (number? 4 cs).map fun (n, r) => ((n : Int), r)

/-- The text behind a mark; blanks may stand before the mark. -/
def behind? (mark : Char) (cs : List Char) : Option (List Char) :=
  match Text.stripStart cs with
  | c :: rest => if c == mark then some rest else none
  | [] => none

/-- One or two digits after optional blanks. -/
def part? (cs : List Char) : Option (Nat × List Char) := number? 2 (Text.stripStart cs)

def date? (cs : List Char) : Option (Date × List Char) := do
  let (year, cs) ← year? (Text.stripStart cs)
  let cs ← behind? '-' cs
  let (month, cs) ← part? cs
  let cs ← behind? '-' cs
  let (day, cs) ← part? cs
  let date : Date := ⟨year, month, day⟩
  if date.isReal then some (date, cs) else none

/-- Nanoseconds; digits beyond the ninth are dropped. -/
def fraction? : List Char → Option (Nat × List Char)
  | '.' :: cs =>
    let ds := cs.takeWhile Text.isDigit
    let kept := ds.take 9
    if ds.isEmpty then none
    else some (Text.decimalValue kept * tenTo (9 - kept.length), cs.drop ds.length)
  | cs => some (0, cs)

/-- Second of the day and nanoseconds; second 60 is a leap second. -/
def time? (cs : List Char) : Option ((Nat × Nat) × List Char) := do
  let (hour, cs) ← part? cs
  let cs ← behind? ':' cs
  let (minute, cs) ← part? cs
  let cs ← behind? ':' cs
  let (second, cs) ← part? cs
  let (nano, cs) ← fraction? cs
  if hour ≤ 23 ∧ minute ≤ 59 ∧ second ≤ 60 then
    let start := hour * 3600 + minute * 60
    if second = 60 then some ((start + 59, nano + 1000000000), cs)
    else some ((start + second, nano), cs)
  else none

def twoDigits? : List Char → Option (Nat × List Char)
  | a :: b :: cs =>
    if Text.isDigit a && Text.isDigit b then
      some (Text.digitValue a * 10 + Text.digitValue b, cs)
    else none
  | _ => none

/-- Hours and minutes behind the sign, in seconds. Colons and blanks may stand between. -/
def offsetSize? (cs : List Char) : Option (Int × List Char) := do
  let (hours, cs) ← twoDigits? cs
  let (minutes, cs) ← twoDigits? (cs.dropWhile fun c => c == ':' || Text.isBlank c)
  if hours ≤ 23 ∧ minutes ≤ 59 then some ((hours * 3600 + minutes * 60 : Nat), cs) else none

/-- Seconds east of UTC. -/
def offset? (cs : List Char) : Option (Int × List Char) :=
  if Text.startsFold "utc".toList cs then some (0, cs.drop 3)
  else match cs with
    | 'Z' :: rest | 'z' :: rest => some (0, rest)
    | '+' :: rest => offsetSize? rest
    | '-' :: rest | '−' :: rest => (offsetSize? rest).map fun (n, r) => (-n, r)
    | _ => none

def separator? : List Char → Option (List Char)
  | 'T' :: cs | 't' :: cs | ' ' :: cs => some cs
  | _ => none

def ofChars? (cs : List Char) : Option Instant := do
  let (date, cs) ← date? cs
  let cs ← separator? cs
  let ((second, nano), cs) ← time? cs
  let (offset, cs) ← offset? (Text.stripStart cs)
  if cs.all Text.isBlank then of? (date.toDays * 86400 + second - offset) nano else none

def ofText? (s : String) : Option Instant := ofChars? s.toList

def toJson (t : Instant) : Json := .str t.text

def ofJson? (j : Json) : Option Instant := j.string?.bind ofText?

end Transit.Instant
