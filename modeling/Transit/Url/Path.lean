import Transit.Url.Percent
import Transit.Url.Scheme
/-! Paths of URLs. While a path is read, its names are kept as a stack with the last one on top,
which is open: it is empty behind a slash, and the next text goes into it. -/
namespace Transit.Url

/-- A path is a list of names, each behind a slash, or a text without structure. -/
inductive Path
  | segments (names : List String)
  | plain (text : String)
deriving DecidableEq

namespace Path

def segmentsText (names : List String) : String := String.join (names.map ("/" ++ ·))

def text : Path → String
  | .segments names => segmentsText names
  | .plain text => text

def names : Path → List String
  | .segments names => names
  | .plain _ => []

def isPlain : Path → Bool
  | .plain _ => true
  | .segments _ => false

/-- A letter and a colon, or a bar that stands for the colon. -/
def isDriveText : List Char → Bool
  | [c, mark] => c.isAlpha && (mark == ':' || mark == '|')
  | _ => false

/-- The name of a drive, as it is written. -/
def isDrive (name : String) : Bool := isDriveText name.toList && !name.toList.contains '|'

/-- A drive stands at the front, and nothing else is in its segment. -/
def startsWithDrive (cs : List Char) : Bool :=
  isDriveText (cs.take 2) && match cs.drop 2 with
    | [] => true
    | c :: _ => isAnySlash c || c == '?' || c == '#'

abbrev Stack := List String

/-- With an empty name on top, open for what follows a slash. -/
def opened : Stack → Stack
  | "" :: names => "" :: names
  | names => "" :: names

/-- Puts text into the name on top. -/
def extend (text : String) : Stack → Stack
  | [] => [text]
  | name :: names => (name ++ text) :: names

/-- Empties the name on top; a file keeps a drive. -/
def clear (scheme : String) : Stack → Stack
  | [] => []
  | name :: names => if isFile scheme && isDrive name then name :: names else "" :: names

/-- Goes up one level. What is named like a drive is not left, whatever the scheme. -/
def goUp (scheme : String) : Stack → Stack
  | "" :: name :: names =>
    clear scheme (if startsWithDrive name.toList then "" :: name :: names else name :: names)
  | names => clear scheme names

/-- What a segment means. -/
inductive Move
  | up | stay | enter
deriving DecidableEq

/-- Dots may be percent-encoded. -/
def readDots : List Char → List Char
  | [] => []
  | '%' :: '2' :: 'e' :: cs | '%' :: '2' :: 'E' :: cs => '.' :: readDots cs
  | c :: cs => c :: readDots cs

def moveOf (segment : List Char) : Move :=
  match readDots segment with
  | ['.', '.'] => .up
  | ['.'] => .stay
  | _ => .enter

/-- A segment becomes a part of the name on top. At the root of a file path, a drive gets its
colon. -/
def enter (scheme : String) (names : Stack) (segment : List Char) : Stack :=
  if isFile scheme && names == [""] && isDriveText segment then
    [String.ofList (segment.take 1 ++ [':'])]
  else extend (String.ofList segment) names

/-- Nothing but the drive of a file is there. -/
def isDriveOnly (scheme : String) : Stack → Bool
  | [name] => isFile scheme && isDrive name
  | _ => false

/-- Takes one segment, which is encoded already; `closed` tells that a slash stands behind it. -/
def takePlain (scheme : String) (closed : Bool) (names : Stack) (segment : List Char) : Stack :=
  let names := if isDriveOnly scheme names && !segment.isEmpty then "" :: names else names
  match moveOf segment with
  | .up => if closed then opened (goUp scheme names) else goUp scheme names
  | .stay => opened names
  | .enter => if closed then "" :: enter scheme names segment else enter scheme names segment

/-- At the root of a file path, a tab behind a drive ends its name, and what follows is a name
whatever it says. Elsewhere the tab does not count. -/
def take (scheme : String) (closed : Bool) (names : Stack) (segment : List Char) : Stack :=
  match segment with
  | c :: ':' :: '\t' :: rest =>
    if isFile scheme && names == [""] then
      let split := [String.ofList rest, String.ofList [c, ':']]
      if closed then "" :: split else split
    else takePlain scheme closed names (c :: ':' :: rest)
  | _ => takePlain scheme closed names segment

def takeAll (scheme : String) (names : Stack) : List (List Char) → Stack
  | [] => names
  | [segment] => take scheme false names segment
  | segment :: rest => takeAll scheme (take scheme true names segment) rest

def splitSegments (special : Bool) : List Char → List (List Char)
  | [] => [[]]
  | c :: cs =>
    if isSlash special c then [] :: splitSegments special cs
    else match splitSegments special cs with
      | [] => [[c]]
      | segment :: rest => (c :: segment) :: rest

/-- The names after reading a text behind those that are there already. -/
def walk (scheme : String) (names : List String) (cs : List Char) : List String :=
  let reserved c := Percent.inPath c && c != '\t'
  let segments := splitSegments (isSpecial scheme) (Percent.encode reserved cs)
  (takeAll scheme names.reverse segments).reverse

/-- The names of the directory of a path, with an empty one behind them. -/
def directory (scheme : String) (names : List String) : List String :=
  (clear scheme names.reverse).reverse

/-- Files have no empty names at the front. -/
def trimFront (scheme : String) (names : List String) : List String :=
  if isFile scheme then
    match names.dropWhile (· == "") with
    | [] => [""]
    | kept => kept
  else names

/-- Without an empty name at the end, as far as there are others. -/
def popIfEmpty (names : List String) : List String :=
  if names.getLast? == some "" && 1 < names.length then names.dropLast else names

/-- Appends a segment given as plain text. Dots that mean this or the upper level add nothing; a
tab or an end of line is dropped, and dots that come out only then act on the path. -/
def push (scheme : String) (names : List String) (segment : String) : List String :=
  if segment == "." || segment == ".." then names
  else
    let kept := segment.toList.filter fun c => c != '\t' && c != '\n' && c != '\r'
    let reserved := if isSpecial scheme then Percent.inSpecialSegment else Percent.inSegment
    let stack := if names == [""] then names else "" :: names.reverse
    trimFront scheme (takePlain scheme false stack (Percent.encode reserved kept)).reverse

end Transit.Url.Path
