import Transit.Text
import Transit.Binary64
/-! Decimal forms of floating point numbers: reading with one rounding, and writing with the fewest
digits that read back as the same number. -/
namespace Transit.Binary64

def digitCount (n : Nat) : Nat := (Nat.toDigits 10 n).length

/-- digits · 10^exponent. Beyond 10^400 and below 10^-400 the result is known without computing. -/
def ofDecimal (negative : Bool) (digits : Nat) (exponent : Int) : Binary64 :=
  let size := exponent + digitCount digits
  if digits = 0 || size < -400 then .finite negative 0 (-1074)
  else if 400 < size then .infinite negative
  else if 0 ≤ exponent then ofRatio negative (digits * tenTo exponent.toNat) 1
  else ofRatio negative digits (tenTo (-exponent).toNat)

/-- An exponent: digits with an optional sign. -/
def exponentOf? (cs : List Char) : Option Int :=
  let (negative, ds) := match cs with
    | '-' :: rest => (true, rest)
    | '+' :: rest => (false, rest)
    | _ => (false, cs)
  if ds.isEmpty || !ds.all Text.isDigit then none
  else
    let n : Int := Text.decimalValue ds
    some (if negative then -n else n)

/-- Digits with an optional point, and an optional exponent; a digit must stand somewhere before
the exponent. -/
def magnitudeOf? (negative : Bool) (cs : List Char) : Option Binary64 :=
  let (mantissa, exponent) := cs.span (fun c => c != 'e' && c != 'E')
  let (whole, rest) := mantissa.span Text.isDigit
  let fraction? := match rest with
    | [] => some []
    | '.' :: ds => if ds.all Text.isDigit then some ds else none
    | _ => none
  let exponent? := match exponent with
    | [] => some 0
    | _ :: ds => exponentOf? ds
  match fraction?, exponent? with
  | some fraction, some e =>
    if whole.isEmpty && fraction.isEmpty then none
    else some (ofDecimal negative (Text.decimalValue (whole ++ fraction)) (e - fraction.length))
  | _, _ => none

/-- A decimal number, or one of the words nan, inf and infinity in any case, with an optional
sign. -/
def ofText? (s : String) : Option Binary64 :=
  let (negative, cs) := match s.toList with
    | '-' :: rest => (true, rest)
    | '+' :: rest => (false, rest)
    | cs => (false, cs)
  let word := String.ofList (cs.map Char.toLower)
  if word == "nan" then some .nan
  else if word == "inf" || word == "infinity" then some (.infinite negative)
  else magnitudeOf? negative cs

/-- Digits and power of ten of a decimal. -/
abbrev Decimal := Nat × Int

/-- Which of two decimals is written when both are equally near. -/
inductive Tie
  | upper
  | even

def Tie.takesLower : Tie → Nat → Bool
  | .upper, _ => false
  | .even, lower => lower % 2 == 0

/-- The least exponent k such that num / den is below 10^k. -/
def decimalSize (num den : Nat) : Int :=
  let k : Int := (digitCount num : Int) - digitCount den
  let below := if 0 ≤ k then num < den * tenTo k.toNat else num * tenTo (-k).toNat < den
  if below then k else k + 1

/-- Multiples of 10^place within half a unit of m · 2^e: the ones that read back as that number,
ends included when m is even. The two neighbours of the number are tried. -/
def gridPoint? (tie : Tie) (m : Nat) (e : Int) (place : Int) : Option Nat :=
  let grid := tenTo place.toNat * twoTo (2 - e).toNat
  let unit := twoTo (e - 2).toNat * tenTo (-place).toNat
  let low := 4 * m - (if m = twoTo 52 ∧ -1074 < e then 1 else 2)
  let hits (c : Nat) : Bool :=
    if m % 2 = 0 then low * unit ≤ c * grid ∧ c * grid ≤ (4 * m + 2) * unit
    else low * unit < c * grid ∧ c * grid < (4 * m + 2) * unit
  let value := 4 * m * unit
  let c := value / grid
  match hits c && c != 0, hits (c + 1) with
  | true, true =>
    let below := value - c * grid
    let above := (c + 1) * grid - value
    if below < above || (below == above && tie.takesLower c) then some c else some (c + 1)
  | true, false => some c
  | false, true => some (c + 1)
  | false, false => none

/-- The first grid that has a point, from coarse to fine. -/
def firstPoint (tie : Tie) (m : Nat) (e : Int) (place : Int) : Nat → Decimal
  | 0 => (m, e)
  | n + 1 => match gridPoint? tie m e place with
    | some c => (c, place)
    | none => firstPoint tie m e (place - 1) n

/-- Without zeros at the end of the digits. -/
def stripZeros (digits : Nat) (exponent : Int) : Decimal :=
  if h : digits ≠ 0 ∧ digits % 10 = 0 then stripZeros (digits / 10) (exponent + 1)
  else (digits, exponent)
termination_by digits
decreasing_by omega

/-- The decimal of m · 2^e with the fewest digits, for m > 0. -/
def shortest (tie : Tie) (m : Nat) (e : Int) : Decimal :=
  let size := decimalSize (m * twoTo e.toNat) (twoTo (-e).toNat)
  let (c, place) := firstPoint tie m e (size - 1) 18
  stripZeros c place

def zeros (n : Nat) : String := String.ofList (List.replicate n '0')

/-- digits · 10^exponent without an exponent; `tail` stands behind a whole number. -/
def positional (tail : String) (digits : Nat) (exponent : Int) : String :=
  let ds := toString digits
  if 0 ≤ exponent then ds ++ zeros exponent.toNat ++ tail
  else
    let places := (-exponent).toNat
    let padded := Text.padLeft '0' (places + 1) ds
    let cs := padded.toList
    let whole := cs.length - places
    String.ofList (cs.take whole) ++ "." ++ String.ofList (cs.drop whole)

def signed (negative : Bool) (s : String) : String := if negative then "-" ++ s else s

/-- The shortest decimal, the upper one of two, never with an exponent and without a point in a whole number. -/
def text : Binary64 → String
  | .nan => "NaN"
  | .infinite negative => signed negative "inf"
  | .finite negative m e =>
    signed negative (if m = 0 then "0" else
      let (digits, exponent) := shortest .upper m e
      positional "" digits exponent)

/-- With exactly `places` digits behind the point. -/
def fixed (places : Nat) : Binary64 → String
  | .nan => "NaN"
  | .infinite negative => signed negative "inf"
  | .finite negative m e =>
    let scaled := roundQuotient (m * tenTo places * twoTo e.toNat) (twoTo (-e).toNat)
    signed negative (positional "" scaled (-(places : Int)))

end Transit.Binary64
