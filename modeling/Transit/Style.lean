import Transit.Text
import Transit.Binary64.Decimal
import Transit.Json.Record
/-! Badges of lines: their shape and their colors. -/
namespace Transit

inductive Shape
  | rect
  | rounded
  | circle
deriving DecidableEq

namespace Shape

def name : Shape → String
  | .rect => "rect"
  | .rounded => "rounded"
  | .circle => "circle"

def toJson (s : Shape) : Json := .str s.name

def ofJsonWith? (blank : Json.Blank) : Json → Option Shape :=
  Json.choiceWith? blank ([rect, rounded, circle].map fun s => (s.name, s))

def ofJson? : Json → Option Shape := ofJsonWith? .null

end Shape

/-- Colors have eight bits each for opacity, red, green and blue. -/
structure Style where
  shape : Shape
  background : UInt32
  foreground : UInt32
  border : Option UInt32
deriving DecidableEq

namespace Style

def white : UInt32 := 0xFFFFFFFF

def black : UInt32 := 0xFF000000

def decimal (digits : Nat) : Binary64 := Binary64.ofDecimal false digits (-3)

def channel (color : UInt32) (shift : Nat) : Binary64 :=
  Binary64.ofInt (color.toNat / twoTo shift % 256)

/-- Weighted sum of red, green and blue, from 0 to 1. -/
def brightness (color : UInt32) : Binary64 :=
  ((decimal 299).mulAdd (channel color 16)
    ((decimal 587).mulAdd (channel color 8) ((decimal 114).mul (channel color 0)))).div
    (Binary64.ofInt 255)

/-- A background with text in black or white, whichever can be read on it. -/
def withBackground (shape : Shape) (background : UInt32) : Style :=
  let isLight := Binary64.lt (decimal 500) (brightness background)
  ⟨shape, background, if isLight then black else white, none⟩

/-- Hexadecimal digits with an optional plus sign. -/
def hexNumber? (cs : List Char) : Option Nat :=
  let digits := match cs with
    | '+' :: rest => rest
    | _ => cs
  if digits.isEmpty then none
  else digits.foldl (fun n? c => match n?, Text.hexValue? c with
    | some n, some d => some (n * 16 + d)
    | _, _ => none) (some 0)

/-- An opaque color from six characters behind any number of number signs. -/
def parseRgb (s : String) : Option UInt32 :=
  let hex := (Text.strip s.toList).dropWhile (· == '#')
  if hex.length = 6 then (hexNumber? hex).map fun rgb => UInt32.ofNat (0xFF000000 + rgb) else none

def toJson (s : Style) : Json :=
  .obj ([("shape", s.shape.toJson), ("background_color", .nat s.background.toNat),
    ("foreground_color", .nat s.foreground.toNat)] ++
    Json.optionalField "border_color" (fun c : UInt32 => .nat c.toNat) s.border)

def ofJsonWith? (blank : Json.Blank) (j : Json) : Option Style := do
  let r ← j.record? ["shape", "background_color", "foreground_color", "border_color"]
  some {
    shape := ← r.defaulted "shape" .rect (Shape.ofJsonWith? blank)
    background := ← r.required "background_color" Json.uint32?
    foreground := ← r.required "foreground_color" Json.uint32?
    border := ← r.omissible "border_color" Json.uint32? }

def ofJson? : Json → Option Style := ofJsonWith? .null

end Transit.Style
