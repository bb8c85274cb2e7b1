import Transit.Url.Percent
import Transit.Url.Domain
/-! Hosts of URLs: domain names, addresses of version 4 and of version 6. -/
namespace Transit.Url

inductive Host
  | domain (name : String)
  | v4 (address : Nat)
  | v6 (groups : List Nat)
deriving DecidableEq

namespace Host

def numberIn? (base : Nat) (cs : List Char) : Option Nat :=
  cs.foldl (fun n? c => match n?, Text.hexValue? c with
    | some n, some d => if d < base then some (n * base + d) else none
    | _, _ => none) (some 0)

/-- A number in one part of an address: hexadecimal behind 0x, octal behind 0. -/
def partNumber? : List Char → Option Nat
  | [] => none
  | '0' :: 'x' :: ds | '0' :: 'X' :: ds => numberIn? 16 ds
  | '0' :: d :: ds => numberIn? 8 (d :: ds)
  | ds => numberIn? 10 ds

/-- The parts between points, without an empty one at the end. -/
def dottedParts (cs : List Char) : List (List Char) :=
  let parts := Text.splitOn '.' cs
  if parts.getLast? == some [] then parts.dropLast else parts

/-- The last part is a number, so the host has to be an address. -/
def endsInNumber (cs : List Char) : Bool :=
  match (dottedParts cs).getLast? with
  | some part => (!part.isEmpty && part.all Text.isDigit) || (partNumber? part).isSome
  | none => false

/-- All parts but the last are bytes; the last one fills the bytes that are left. -/
def v4? (cs : List Char) : Option Host := do
  let numbers ← (dottedParts cs).mapM partNumber?
  let last ← numbers.getLast?
  let bytes := numbers.dropLast
  if 4 < numbers.length || bytes.any (255 < ·) || twoTo (8 * (4 - bytes.length)) ≤ last then none
  else
    let high := bytes.foldl (fun n b => n * 256 + b) 0
    some (.v4 (high * twoTo (8 * (4 - bytes.length)) + last))

def v4Text (address : Nat) : String :=
  ".".intercalate ([16777216, 65536, 256, 1].map fun unit => toString (address / unit % 256))

def byte? (cs : List Char) : Option Nat :=
  if cs.isEmpty || (2 ≤ cs.length && cs.head? == some '0') then none
  else (numberIn? 10 cs).filter (· ≤ 255)

/-- Groups of an address; the last one may be given as four bytes. -/
def groups? : List (List Char) → Option (List Nat)
  | [] => some []
  | [part] =>
    if part.contains '.' then
      match (Text.splitOn '.' part).mapM byte? with
      | some [a, b, c, d] => some [a * 256 + b, c * 256 + d]
      | _ => none
    else if part.isEmpty || 4 < part.length then none
    else (numberIn? 16 part).map ([·])
  | part :: parts =>
    if part.isEmpty || 4 < part.length then none
    else match numberIn? 16 part, groups? parts with
      | some n, some ns => some (n :: ns)
      | _, _ => none

/-- The text before and behind the first double colon. -/
def splitGap? : List Char → Option (List Char × List Char)
  | ':' :: ':' :: cs => some ([], cs)
  | c :: cs => (splitGap? cs).map fun (before, behind) => (c :: before, behind)
  | [] => none

def groupList? (cs : List Char) : Option (List Nat) :=
  if cs.isEmpty then some [] else groups? (Text.splitOn ':' cs)

/-- Eight groups; a double colon stands for at least one group of zero. -/
def v6? (cs : List Char) : Option Host :=
  match splitGap? cs with
  | none => (groupList? cs).bind fun gs => if gs.length = 8 then some (.v6 gs) else none
  | some (before, behind) =>
    if before.contains '.' then none
    else match groupList? before, groupList? behind with
      | some front, some back =>
        let missing := 8 - (front.length + back.length)
        if missing = 0 then none else some (.v6 (front ++ List.replicate missing 0 ++ back))
      | _, _ => none

/-- Position and length of the run of zeros that starts here, if it is longer than `best`. -/
def longestZeros (position : Nat) (best : Nat × Nat) : List Nat → Nat × Nat
  | [] => best
  | g :: gs =>
    let run := ((g :: gs).takeWhile (· == 0)).length
    longestZeros (position + 1) (if best.2 < run then (position, run) else best) gs

def hexText (n : Nat) : List Char := Nat.toDigits 16 n

/-- The first of the longest runs of two or more zeros is left out. -/
def v6Text (groups : List Nat) : String :=
  let (start, run) := longestZeros 0 (0, 1) groups
  let shown (gs : List Nat) := Text.joinWith [':'] (gs.map hexText)
  String.ofList <|
    if run < 2 then shown groups
    else shown (groups.take start) ++ [':', ':'] ++ shown (groups.drop (start + run))

def bracketed? (cs : List Char) : Option (Option Host) :=
  match cs with
  | '[' :: rest => match rest.reverse with
    | ']' :: inner => some (v6? inner.reverse)
    | _ => some none
  | _ => none

/-- The host of a URL whose scheme has a network protocol. -/
def ofChars? (cs : List Char) : Option Host :=
  match bracketed? cs with
  | some host? => host?
  | none => do
    let name ← Domain.ofChars? (← Percent.decode? cs)
    if name.isEmpty then none
    else if endsInNumber name then v4? name
    else some (.domain (String.ofList name))

/-- The host of a URL of any other scheme; it may be empty. -/
def opaqueOf? (cs : List Char) : Option Host :=
  match bracketed? cs with
  | some host? => host?
  | none =>
    if cs.any fun c => c == '\x00' || "\t\n\r #/:<>?@[\\]^|".toList.contains c then none
    else some (.domain (String.ofList (Percent.encode Percent.control cs)))

def text : Host → String
  | .domain name => name
  | .v4 address => v4Text address
  | .v6 groups => "[" ++ v6Text groups ++ "]"

end Transit.Url.Host
