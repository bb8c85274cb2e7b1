import Transit.Text
import Transit.Binary64.Decimal
import Transit.Json
/-! Numbers of JSON. A number without fraction and exponent is an integer if it fits 64 bits. Any
other is a significand of at most 64 bits, scaled by a power of ten in one or a few rounded
steps. -/
namespace Transit.Json

/-- Sign, digits before and behind the point, and power of ten of a number. -/
structure Numeral where
  negative : Bool
  whole : List Char
  fraction : List Char
  exponent : Option Int

namespace Numeral

def digits (cs : List Char) : List Char × List Char := cs.span Text.isDigit

/-- Digits before the point: no zero in front of others. -/
def whole? (cs : List Char) : Option (List Char × List Char) :=
  match digits cs with
  | ([], _) => none
  | ('0' :: _ :: _, _) => none
  | found => some found

def fraction? : List Char → Option (List Char × List Char)
  | '.' :: cs => match digits cs with
    | ([], _) => none
    | found => some found
  | cs => some ([], cs)

def signedDigits? (negative : Bool) (cs : List Char) : Option (Option Int × List Char) :=
  match digits cs with
  | ([], _) => none
  | (ds, rest) =>
    let n : Int := Text.decimalValue ds
    some (some (if negative then -n else n), rest)

def exponent? : List Char → Option (Option Int × List Char)
  | c :: cs =>
    if c == 'e' || c == 'E' then match cs with
      | '-' :: rest => signedDigits? true rest
      | '+' :: rest => signedDigits? false rest
      | _ => signedDigits? false cs
    else some (none, c :: cs)
  | [] => some (none, [])

def unsigned? (negative : Bool) (cs : List Char) : Option (Numeral × List Char) :=
  match whole? cs with
  | none => none
  | some (whole, cs) => match fraction? cs with
    | none => none
    | some (fraction, cs) => match exponent? cs with
      | none => none
      | some (exponent, cs) => some (⟨negative, whole, fraction, exponent⟩, cs)

def read? : List Char → Option (Numeral × List Char)
  | '-' :: cs => unsigned? true cs
  | cs => unsigned? false cs

/-- Takes digits into a significand as long as it stays below 2^64; gives the significand, the
number of digits taken and the number of digits left. -/
def accumulate (significand taken : Nat) : List Char → Nat × Nat × Nat
  | [] => (significand, taken, 0)
  | c :: cs =>
    let next := significand * 10 + Text.digitValue c
    if next < twoTo 64 then accumulate next (taken + 1) cs
    else (significand, taken, (c :: cs).length)

/-- f · 10^e: one step up to 10^308, repeated steps below 10^-308; none beyond the range. -/
def scale (f : Binary64) (e : Int) : Option Binary64 :=
  if e.natAbs ≤ 308 then
    let power := Binary64.ofDecimal false 1 e.natAbs
    let g := if 0 ≤ e then f.mul power else f.div power
    if g.isFinite then some g else none
  else if f.within 0 then some f
  else if 0 ≤ e then none
  else scale (f.div (Binary64.ofDecimal false 1 308)) (e + 308)
termination_by e.natAbs

def negate (negative : Bool) : Binary64 → Binary64
  | .finite s m e => .finite (s != negative) m e
  | x => x

def isIntegral (n : Numeral) : Bool := n.fraction.isEmpty && n.exponent.isNone

def value (n : Numeral) : Json :=
  let (significand, _, dropped) := accumulate 0 0 n.whole
  if n.isIntegral && dropped = 0 then
    if !n.negative then .int significand
    else if significand = 0 || twoTo 63 < significand then
      .float (negate true (Binary64.ofInt significand))
    else .int (-(significand : Int))
  else
    let (significand, taken, _) := accumulate significand 0 n.fraction
    match scale (Binary64.ofInt significand) (dropped - taken + n.exponent.getD 0) with
    | some f => .float (negate n.negative f)
    | none => .refused

end Numeral

/-- A floating point number with its shortest digits: positional from 10^-5 up to 10^16, and then
with at least one digit behind the point. -/
def floatText : Binary64 → String
  | .finite negative m e =>
    Binary64.signed negative (if m = 0 then "0.0" else
      let (digits, exponent) := Binary64.shortest .even m e
      let ds := toString digits
      let size : Int := ds.length + exponent
      if -5 < size ∧ size ≤ 16 then Binary64.positional ".0" digits exponent
      else
        let mantissa := if digits < 10 then ds
          else String.ofList (ds.toList.take 1) ++ "." ++ String.ofList (ds.toList.drop 1)
        mantissa ++ "e" ++ toString (size - 1))
  | _ => "null"

end Transit.Json
