import Transit.Text
/-! Binary floating point with 53 significant bits, as exact dyadic numbers. Every operation gives
the exact result rounded to nearest, a tie going to the even neighbour. -/
namespace Transit

/-- `finite s m e` is m · 2^e, negated when `s` holds. -/
inductive Binary64
  | nan
  | infinite (negative : Bool)
  | finite (negative : Bool) (significand : Nat) (exponent : Int)
deriving DecidableEq

namespace Binary64

/-- The natural number nearest to num / den, a tie going to the even one. -/
def roundQuotient (num den : Nat) : Nat :=
  let q := num / den
  let twice := 2 * (num % den)
  if twice < den then q
  else if den < twice then q + 1
  else q + q % 2

/-- The largest k with 2^k ≤ num / den. -/
def floorLog2 (num den : Nat) : Int :=
  let k : Int := (num.log2 : Int) - den.log2
  let reached := if 0 ≤ k then den * twoTo k.toNat ≤ num else den ≤ num * twoTo (-k).toNat
  if reached then k else k - 1

/-- num / den with 53 bits, or as many as fit above the least exponent. -/
def ofRatio (negative : Bool) (num den : Nat) : Binary64 :=
  if num = 0 then .finite negative 0 (-1074)
  else
    let e := max (floorLog2 num den - 52) (-1074)
    let m := if 0 ≤ e then roundQuotient num (den * twoTo e.toNat)
      else roundQuotient (num * twoTo (-e).toNat) den
    let (m, e) := if m = twoTo 53 then (twoTo 52, e + 1) else (m, e)
    if 971 < e then .infinite negative else .finite negative m e

def ofScaled (negative : Bool) (m : Nat) (e : Int) : Binary64 :=
  if 0 ≤ e then ofRatio negative (m * twoTo e.toNat) 1 else ofRatio negative m (twoTo (-e).toNat)

def ofInt (n : Int) : Binary64 := ofRatio (n < 0) n.natAbs 1

def isFinite : Binary64 → Bool
  | .finite .. => true
  | _ => false

def mul : Binary64 → Binary64 → Binary64
  | .finite s m e, .finite t n f => ofScaled (s != t) (m * n) (e + f)
  | .infinite s, .finite t n _ | .finite t n _, .infinite s =>
    if n = 0 then .nan else .infinite (s != t)
  | .infinite s, .infinite t => .infinite (s != t)
  | .nan, _ | _, .nan => .nan

def div : Binary64 → Binary64 → Binary64
  | .finite s m e, .finite t n f =>
    if n = 0 then if m = 0 then .nan else .infinite (s != t)
    else if 0 ≤ e - f then ofRatio (s != t) (m * twoTo (e - f).toNat) n
    else ofRatio (s != t) m (n * twoTo (f - e).toNat)
  | .infinite s, .finite t _ _ => .infinite (s != t)
  | .finite s _ _, .infinite t => .finite (s != t) 0 (-1074)
  | .infinite _, .infinite _ => .nan
  | .nan, _ | _, .nan => .nan

/-- m · 2^e as a multiple of 2^unit, where unit ≤ e. -/
def units (unit : Int) (negative : Bool) (m : Nat) (e : Int) : Int :=
  let n : Int := m * twoTo (e - unit).toNat
  if negative then -n else n

/-- x · y + z with one rounding, for finite operands. -/
def mulAdd : Binary64 → Binary64 → Binary64 → Binary64
  | .finite s m e, .finite t n f, .finite u k g =>
    let unit := min (e + f) g
    let sum := units unit (s != t) (m * n) (e + f) + units unit u k g
    ofScaled (sum < 0 || (sum == 0 && (s != t) && u)) sum.natAbs unit
  | _, _, _ => .nan

/-- Strictly less; never with a NaN. -/
def lt : Binary64 → Binary64 → Bool
  | .finite s m e, .finite t n f =>
    let unit := min e f
    units unit s m e < units unit t n f
  | .infinite s, .infinite t => s && !t
  | .infinite s, .finite .. => s
  | .finite .., .infinite t => !t
  | .nan, _ | _, .nan => false

/-- Finite, and of magnitude at most `bound`. -/
def within (bound : Nat) : Binary64 → Bool
  | .finite _ m e => if 0 ≤ e then m * twoTo e.toNat ≤ bound else m ≤ bound * twoTo (-e).toNat
  | _ => false

/-- The nearest integer, a half going away from zero, moved into lo..hi; zero for NaN. -/
def toIntClamped (lo hi : Int) : Binary64 → Int
  | .nan => 0
  | .infinite negative => if negative then lo else hi
  | .finite negative m e =>
    let n : Nat := if 0 ≤ e then m * twoTo e.toNat
      else (2 * m + twoTo (-e).toNat) / twoTo ((-e).toNat + 1)
    max lo (min hi (if negative then -(n : Int) else n))

/-- The number whose interchange format has these bits. -/
def ofBits (bits : UInt64) : Binary64 :=
  let b := bits.toNat
  let negative := b / twoTo 63 == 1
  let biased : Nat := b / twoTo 52 % twoTo 11
  let fraction : Nat := b % twoTo 52
  if biased = 2047 then if fraction = 0 then .infinite negative else .nan
  else if biased = 0 then .finite negative fraction (-1074)
  else .finite negative (twoTo 52 + fraction) ((biased : Int) - 1075)

def toBits : Binary64 → UInt64
  | .nan => 0x7FF8000000000000
  | .infinite negative => if negative then 0xFFF0000000000000 else 0x7FF0000000000000
  | .finite negative m e =>
    let sign := if negative then twoTo 63 else 0
    let rest := if m < twoTo 52 then m else (e + 1075).toNat * twoTo 52 + (m - twoTo 52)
    (sign + rest).toUInt64

end Transit.Binary64
