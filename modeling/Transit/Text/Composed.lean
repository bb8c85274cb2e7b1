import Transit.Text.Composed.Tables
/-! The composed form of a text: texts that mean the same letters get the same form, in which a
letter and its marks are one character wherever there is one. -/
namespace Transit.Text.Composed

open Table

/-- The first syllable of Hangul, its first letters of each kind, and how many there are: 19 leading
consonants, 21 vowels, and 27 trailing consonants or none. -/
def syllable : Nat := 0xAC00

def leading : Nat := 0x1100

def vowel : Nat := 0x1161

def trailing : Nat := 0x11A7

def isIn (first count n : Nat) : Bool := first ≤ n && n < first + count

/-- The letters of a syllable. -/
def letters (n : Nat) : List Char :=
  let index := n - syllable
  let last := index % 28
  Char.ofNat (leading + index / 588) :: Char.ofNat (vowel + index % 588 / 28) ::
    if last = 0 then [] else [Char.ofNat (trailing + last)]

/-- What a character is made of at once, which may again be made of something. -/
def partsOf? (c : Char) : Option (List Char) := (imageOf? pair c).or (imageOf? replaced c)

/-- What a character is made of in the end; no decomposition has more than `depth` steps. -/
def decompose : Nat → Char → List Char
  | 0, c => [c]
  | depth + 1, c =>
    if c.toNat < 0xC0 then [c]
    else if isIn syllable 11172 c.toNat then letters c.toNat
    else match partsOf? c with
      | some cs => cs.flatMap (decompose depth)
      | none => [c]

def orderOf (c : Char) : Nat := if c.toNat < 0x300 then 0 else valueOf order c

/-- Puts a mark in front of a run of marks, behind those of a lower class. -/
def insertMark (c : Char) : List Char → List Char
  | [] => [c]
  | d :: ds =>
    if orderOf d != 0 && orderOf d < orderOf c then d :: insertMark c ds else c :: d :: ds

/-- Sorts each run of marks by class and keeps the order within a class. -/
def sortMarks (cs : List Char) : List Char :=
  cs.foldr (fun c ds => if orderOf c = 0 then c :: ds else insertMark c ds) []

/-- The characters made of a given first one. -/
def joinIn (rows : List Row) (a b : Char) : Option Char :=
  (rows.find? (·.image == [a.toNat, b.toNat])).map fun row => Char.ofNat row.first

def syllableOf? (a b : Nat) : Option Nat :=
  if isIn leading 19 a && isIn vowel 21 b then
    some (syllable + ((a - leading) * 21 + (b - vowel)) * 28)
  else if isIn syllable 11172 a && (a - syllable) % 28 = 0 && isIn (trailing + 1) 27 b then
    some (a + (b - trailing))
  else none

def pairs : List Row := pair.toList

/-- The one character for two. -/
def join? (a b : Char) : Option Char :=
  if b.toNat < 0x300 then none
  else match syllableOf? a.toNat b.toNat with
    | some n => some (Char.ofNat n)
    | none => joinIn pairs a b

/-- A letter that marks are joined to, the marks behind it that stay by themselves, the latest
first, and the class of the last of them. -/
structure Open where
  letter : Char
  kept : List Char
  last : Nat

def Open.text (o : Open) : List Char := o.letter :: o.kept.reverse

/-- A mark is joined to the letter unless a mark between them has the same class or a higher one. -/
def composeFrom (o : Open) : List Char → List Char
  | [] => o.text
  | c :: cs =>
    let n := orderOf c
    let joined := if o.kept.isEmpty || o.last < n then join? o.letter c else none
    match joined with
    | some d => composeFrom { o with letter := d } cs
    | none =>
      if n = 0 then o.text ++ composeFrom ⟨c, [], 0⟩ cs
      else composeFrom { o with kept := c :: o.kept, last := n } cs

/-- Marks at the front have no letter to be joined to. -/
def compose (cs : List Char) : List Char :=
  let front := cs.takeWhile (orderOf · != 0)
  front ++ match cs.drop front.length with
    | [] => []
    | c :: rest => composeFrom ⟨c, [], 0⟩ rest

def composed (cs : List Char) : List Char := compose (sortMarks (cs.flatMap (decompose 4)))

end Transit.Text.Composed
