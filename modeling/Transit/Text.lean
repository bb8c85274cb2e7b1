/-! White space, letter case of ASCII, searching and replacing, and numbers, on lists of characters.
A search result is always the text before the find and the text behind it, so that no index is
ever carried from one text to another. -/
namespace Transit

def twoTo (n : Nat) : Nat := Nat.pow 2 n

def tenTo (n : Nat) : Nat := Nat.pow 10 n

namespace Text

/-- The Unicode property White_Space. -/
def isBlank (c : Char) : Bool :=
  let n := c.toNat
  (9 ≤ n && n ≤ 13) || n == 0x20 || n == 0x85 || n == 0xA0 || n == 0x1680 ||
    (0x2000 ≤ n && n ≤ 0x200A) || n == 0x2028 || n == 0x2029 || n == 0x202F || n == 0x205F ||
    n == 0x3000

def stripStart (cs : List Char) : List Char := cs.dropWhile isBlank

/-- Without the longest run at the end whose characters satisfy `p`. -/
def dropEndWhile (p : Char → Bool) (cs : List Char) : List Char := (cs.reverse.dropWhile p).reverse

def stripEnd (cs : List Char) : List Char := dropEndWhile isBlank cs

def strip (cs : List Char) : List Char := stripEnd (stripStart cs)

def trim (s : String) : String := String.ofList (strip s.toList)

/-- Nothing but blanks. -/
def isBlankText (s : String) : Bool := s.toList.all isBlank

/-- Equal up to the case of ASCII letters. -/
def sameLetter (a b : Char) : Bool := a.toLower == b.toLower

/-- `cs` starts with `mark`, up to the case of ASCII letters. -/
def startsFold : List Char → List Char → Bool
  | [], _ => true
  | _ :: _, [] => false
  | m :: mark, c :: cs => sameLetter m c && startsFold mark cs

/-- The text behind the first place where `mark` stands, up to the case of ASCII letters. -/
def afterFold? (mark : List Char) : List Char → Option (List Char)
  | [] => if mark.isEmpty then some [] else none
  | c :: cs =>
    if startsFold mark (c :: cs) then some ((c :: cs).drop mark.length) else afterFold? mark cs

/-- `mark` stands somewhere in the text, up to the case of ASCII letters. -/
def containsFold (mark cs : List Char) : Bool := (afterFold? mark cs).isSome

/-- Before and behind the first character that satisfies `p`. -/
def splitAt? (p : Char → Bool) (cs : List Char) : Option (List Char × List Char) :=
  match cs.span (fun c => !p c) with
  | (before, _ :: behind) => some (before, behind)
  | (_, []) => none

/-- The parts between the places where `mark` stands; without any, the whole text is one part. -/
def splitOn (mark : Char) : List Char → List (List Char)
  | [] => [[]]
  | c :: cs =>
    if c == mark then [] :: splitOn mark cs
    else match splitOn mark cs with
      | [] => [[c]]
      | part :: parts => (c :: part) :: parts

def joinWith (mark : List Char) : List (List Char) → List Char
  | [] => []
  | [part] => part
  | part :: parts => part ++ mark ++ joinWith mark parts

/-- Every place where `mark` stands, from the left and without overlap, gets `new` instead. -/
def replaceAll (mark new : List Char) : List Char → List Char
  | [] => []
  | c :: cs =>
    if !mark.isEmpty && mark.isPrefixOf (c :: cs) then
      new ++ replaceAll mark new (cs.drop (mark.length - 1))
    else c :: replaceAll mark new cs
termination_by cs => cs.length
decreasing_by
  · simp only [List.length_drop, List.length_cons]
    omega
  · exact Nat.lt_succ_self _

/-- At least `width` characters, with `fill` in front. -/
def padLeft (fill : Char) (width : Nat) (s : String) : String :=
  String.ofList (List.replicate (width - s.length) fill) ++ s

def isDigit (c : Char) : Bool := '0' ≤ c && c ≤ '9'

def digitValue (c : Char) : Nat := c.toNat - 48

def digitChar (d : Nat) : Char := Char.ofNat (48 + d)

/-- The decimal digits of a number. -/
def digits (n : Nat) : List Char :=
  if n < 10 then [digitChar n] else digits (n / 10) ++ [digitChar (n % 10)]
termination_by n
decreasing_by omega

/-- The last `count` decimal digits of a number, with zeros in front. -/
def paddedDigits : Nat → Nat → List Char
  | 0, _ => []
  | count + 1, n => paddedDigits count (n / 10) ++ [digitChar (n % 10)]

/-- The number that a run of decimal digits stands for. -/
def decimalValue (cs : List Char) : Nat := cs.foldl (fun n c => n * 10 + digitValue c) 0

def hexValue? (c : Char) : Option Nat :=
  if '0' ≤ c && c ≤ '9' then some (c.toNat - 48)
  else if 'a' ≤ c && c ≤ 'f' then some (c.toNat - 87)
  else if 'A' ≤ c && c ≤ 'F' then some (c.toNat - 55)
  else none

/-- A natural number below `bound`, in decimal digits with an optional plus sign. -/
def natBelow? (bound : Nat) (s : String) : Option Nat :=
  let digits := match s.toList with
    | '+' :: rest => rest
    | cs => cs
  if digits.isEmpty || !digits.all isDigit then none
  else
    let n := decimalValue digits
    if n < bound then some n else none

end Text

end Transit
