/-! UTF-8, piece by piece: characters, and what is no UTF-8 between them. -/
namespace Transit.Text.Utf8

/-- A character, or bytes that are none. -/
abbrev Piece := Option Char

/-- A character of which some bytes are still to come. The next one has to lie in a range. -/
structure Partial where
  missing : Nat
  low : UInt8
  high : UInt8
  value : Nat

/-- What a byte at the start of a character comes to. The ranges leave out overlong forms,
surrogates and what lies beyond the last code point. -/
def start (b : UInt8) : List Piece × Option Partial :=
  let n := b.toNat
  if n < 0x80 then ([some (Char.ofNat n)], none)
  else if n < 0xC2 then ([none], none)
  else if n < 0xE0 then ([], some ⟨1, 0x80, 0xBF, n % 32⟩)
  else if n < 0xF0 then
    ([], some ⟨2, if n = 0xE0 then 0xA0 else 0x80, if n = 0xED then 0x9F else 0xBF, n % 16⟩)
  else if n < 0xF5 then
    ([], some ⟨3, if n = 0xF0 then 0x90 else 0x80, if n = 0xF4 then 0x8F else 0xBF, n % 8⟩)
  else ([none], none)

/-- The character after a further byte, or what of it is still missing; none if the byte does not
belong to it. -/
def proceed (p : Partial) (b : UInt8) : Option (List Piece × Option Partial) :=
  if p.low ≤ b ∧ b ≤ p.high then
    let value := p.value * 64 + b.toNat % 64
    if p.missing ≤ 1 then some ([some (Char.ofNat value)], none)
    else some ([], some ⟨p.missing - 1, 0x80, 0xBF, value⟩)
  else none

/-- As many bytes as a character may begin with are one piece. -/
def piecesFrom : Option Partial → List UInt8 → List Piece
  | none, [] => []
  | some _, [] => [none]
  | none, b :: rest =>
    let (cs, p) := start b
    cs ++ piecesFrom p rest
  | some p, b :: rest => match proceed p b with
    | some (cs, p) => cs ++ piecesFrom p rest
    | none =>
      let (cs, p) := start b
      none :: cs ++ piecesFrom p rest

def pieces (bytes : List UInt8) : List Piece := piecesFrom none bytes

/-- For people to read: what is no UTF-8 is shown as a replacement character. -/
def decode (bytes : List UInt8) : String := String.ofList ((pieces bytes).map (·.getD '\ufffd'))

end Transit.Text.Utf8
