import Transit.Text.Composed
import Transit.Url.Domain.Tables
import Transit.Url.Percent
import Transit.Url.Punycode
/-! Domain names with letters beyond ASCII: each name has one mapped form, whose labels must satisfy
the rules on marks, joiners and direction, and is written in ASCII. -/
namespace Transit.Url.Domain

open Text

def isAscii (c : Char) : Bool := c.toNat < 0x80

/-- Characters of ASCII that no domain name may have. -/
def isForbidden (c : Char) : Bool :=
  Percent.control c || "%#/:<>?@[\\]^| ".toList.contains c

/-- What a character becomes, if a name may have it. -/
def mapChar? (c : Char) : Option (List Char) :=
  if isAscii c then some [c.toLower]
  else if Table.has barred c then none
  else if Table.has dropped c then some []
  else some ((Table.imageOf? mapping c).getD [c])

/-- The mapped form of a name. -/
def mapped? (cs : List Char) : Option (List Char) := do
  let name := Composed.composed (← cs.mapM mapChar?).flatten
  if name.any isForbidden then none else some name

/-- A name in mapped form stays as it is. -/
def isMapped (cs : List Char) : Bool := mapped? cs == some cs

/-- A part of a name, in letters and as it is written. -/
structure Label where
  letters : List Char
  text : List Char

/-- What stands at the front of an encoded label. -/
def encodedSign : List Char := "xn--".toList

/-- A label of a mapped name. An encoded one must stand for a label that is mapped already. -/
def label? (cs : List Char) : Option Label :=
  if encodedSign.isPrefixOf cs then
    let code := cs.drop encodedSign.length
    if code.all isAscii && cs.getLast? != some '-' && code.length ≤ 2000 then
      match Punycode.decode? code with
      | some letters =>
        if isMapped letters && !letters.contains '.' then some ⟨letters, cs⟩ else none
      | none => none
    else none
  else if cs.all isAscii then some ⟨cs, cs⟩
  else if 1000 < cs.length then none
  else some ⟨cs, encodedSign ++ Punycode.encode cs⟩

def startsWithMark : List Char → Bool
  | c :: _ => !isAscii c && Table.has combining c
  | [] => false

/-- The next character that joining does not see through joins to one of the given sides. -/
def meetsJoining (sides : List Nat) (cs : List Char) : Bool :=
  match cs.dropWhile (Table.valueOf joining · == 4) with
  | c :: _ => sides.contains (Table.valueOf joining c)
  | [] => false

/-- A joiner or non-joiner stands behind a mark that takes the vowel away; a non-joiner also between
letters that would join. `before` is the text in front of `cs`, reversed. -/
def joinersFit (before : List Char) : List Char → Bool
  | [] => true
  | c :: cs =>
    let fits :=
      if c == '\u200c' || c == '\u200d' then
        match before with
        | [] => false
        | b :: _ =>
          Table.has virama b ||
            (c == '\u200c' && meetsJoining [1, 3] before && meetsJoining [2, 3] cs)
      else true
    fits && joinersFit (c :: before) cs

/-- How a character behaves in a line of mixed direction. -/
inductive Direction
  | left | right | arabicDigit | digit | neutral | mark | other
deriving DecidableEq

def directionOf (c : Char) : Direction :=
  match Table.valueOf direction c with
  | 0 => .left
  | 1 => .right
  | 2 => .arabicDigit
  | 3 => .digit
  | 4 => .neutral
  | 5 => .mark
  | _ => .other

/-- The name is not written from left to right throughout. -/
def isMixed (letters : List Char) : Bool :=
  letters.any fun c =>
    !isAscii c && (directionOf c == .right || directionOf c == .arabicDigit)

/-- A label from left to right ends in a letter or digit, marks aside, and has nothing from right to
left in it. -/
def fitsLeft (middle : List Direction) (last : Direction) : Bool :=
  [.left, .digit].contains last && middle.all [.left, .digit, .neutral, .mark].contains

/-- A label from right to left has no letters from left to right, and digits of one kind only. -/
def fitsRight (middle : List Direction) (last : Direction) : Bool :=
  [.right, .digit, .arabicDigit].contains last &&
    middle.all [.right, .digit, .arabicDigit, .neutral, .mark].contains &&
    !((last :: middle).contains .digit && (last :: middle).contains .arabicDigit)

/-- The first character gives a label its direction. -/
def directionsFit (label : List Char) : Bool :=
  match label.map directionOf with
  | [] => true
  | first :: rest =>
    (first == .left || first == .right) &&
      match rest.reverse.dropWhile (· == .mark) with
      | [] => true
      | last :: middle => if first == .left then fitsLeft middle last else fitsRight middle last

/-- A name in ASCII, if it can be one. -/
def ofChars? (cs : List Char) : Option (List Char) := do
  let labels ← (splitOn '.' (← mapped? cs)).mapM label?
  let mixed := labels.any (isMixed ·.letters)
  if labels.all fun label =>
      !startsWithMark label.letters && joinersFit [] label.letters &&
        (!mixed || directionsFit label.letters) then
    some (joinWith ['.'] (labels.map Label.text))
  else none

end Transit.Url.Domain
