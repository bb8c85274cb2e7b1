import Transit.Text
/-! Punycode: a label with letters beyond ASCII, written in ASCII. The ASCII letters come first;
then each other letter, in order of code points, as the number of places skipped since the one
before. -/
namespace Transit.Url.Punycode

def digit (d : Nat) : Char := if d < 26 then Char.ofNat (97 + d) else Char.ofNat (22 + d)

/-- A digit below this value ends a number. -/
def threshold (position bias : Nat) : Nat := max 1 (min 26 (position - bias))

/-- A number in digits whose weights depend on the bias. -/
def number (bias : Nat) (position q : Nat) : List Char :=
  let t := threshold position bias
  if q < t then [digit q]
  else digit (t + (q - t) % (36 - t)) :: number bias (position + 36) ((q - t) / (36 - t))
termination_by q
decreasing_by
  have : 1 ≤ threshold position bias := by simp only [threshold]; omega
  exact Nat.lt_of_le_of_lt (Nat.div_le_self _ _) (by omega)

def settle (delta k : Nat) : Nat :=
  if 455 < delta then settle (delta / 35) (k + 36) else k + 36 * delta / (delta + 38)
termination_by delta
decreasing_by omega

/-- The bias for the next number, after `written` letters. -/
def adapt (delta written : Nat) (isFirst : Bool) : Nat :=
  let d := if isFirst then delta / 700 else delta / 2
  settle (d + d / written) 0

structure State where
  out : List Char
  skipped : Nat
  bias : Nat
  written : Nat

/-- Passes one letter of the label while the letters of code point `current` are written. -/
def pass (basic current : Nat) (s : State) (c : Char) : State :=
  if c.toNat < current then { s with skipped := s.skipped + 1 }
  else if c.toNat = current then
    ⟨s.out ++ number s.bias 36 s.skipped, 0,
      adapt s.skipped (s.written + 1) (s.written == basic), s.written + 1⟩
  else s

def write (label : List Char) (basic : Nat) : Nat → List Nat → State → State
  | _, [], s => s
  | next, current :: rest, s =>
    let s := { s with skipped := s.skipped + (current - next) * (s.written + 1) }
    let s := label.foldl (pass basic current) s
    write label basic (current + 1) rest { s with skipped := s.skipped + 1 }

/-- The code points beyond ASCII, each once, in increasing order. -/
def foreign (label : List Char) : List Nat :=
  ((label.map Char.toNat).filter (128 ≤ ·)).eraseDups.mergeSort

def encode (label : List Char) : List Char :=
  let basic := label.filter (·.toNat < 128)
  let start : State := ⟨basic ++ (if basic.isEmpty then [] else ['-']), 0, 72, basic.length⟩
  (write label basic.length 128 (foreign label) start).out

/-- What the digits read so far come to: the letters, the code point and the place of the next one,
the place where its number began, and the weight and position of the next digit. -/
structure Reading where
  letters : List Char
  code : Nat
  place : Nat
  origin : Nat
  weight : Nat
  position : Nat
  bias : Nat

def value? (c : Char) : Option Nat :=
  if Text.isDigit c then some (c.toNat - 22)
  else if c.isAlpha then some (c.toLower.toNat - 97)
  else none

/-- A number never has as many as 32 bits. -/
def bounded? (n : Nat) : Option Nat := if n < 4294967296 then some n else none

/-- Puts the letter that a whole number stands for where it belongs. -/
def insert? (r : Reading) : Option Reading :=
  let room := r.letters.length + 1
  let code := r.code + r.place / room
  let place := r.place % room
  if code.isValidChar then
    some {
      letters := r.letters.take place ++ Char.ofNat code :: r.letters.drop place
      code, place := place + 1, origin := place + 1, weight := 1, position := 36
      bias := adapt (r.place - r.origin) room (r.origin = 0) }
  else none

def readDigit? (r : Reading) (c : Char) : Option Reading := do
  let d ← value? c
  let t := threshold r.position r.bias
  let r := { r with place := ← bounded? (r.place + d * r.weight) }
  if d < t then insert? r
  else return {
    r with weight := ← bounded? (r.weight * (36 - t)), position := r.position + 36 }

/-- The ASCII letters and the digits: the last hyphen stands between them, unless it comes first. -/
def divide (text : List Char) : List Char × List Char :=
  match text.reverse.span (· != '-') with
  | (digits, _ :: c :: rest) => ((c :: rest).reverse, digits.reverse)
  | _ => ([], text)

/-- The label that a text stands for, if it stands for one. -/
def decode? (text : List Char) : Option (List Char) := do
  let (basic, digits) := divide text
  let start : Reading := ⟨basic.map Char.toLower, 128, 0, 0, 1, 36, 72⟩
  let r ← digits.foldlM readDigit? start
  if r.position = 36 then some r.letters else none

end Transit.Url.Punycode
