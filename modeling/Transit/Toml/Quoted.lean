import Transit.Text
/-! Strings and keys of TOML. A step of reading gives a text and what stands behind it. -/
namespace Transit.Toml

def isGap (c : Char) : Bool := c == ' ' || c == '\t'

def skipGap (cs : List Char) : List Char := cs.dropWhile isGap

/-- No control character but the tab. -/
def isPlain (c : Char) : Bool := c == '\t' || (' ' ≤ c && c != '\x7f')

def newline? : List Char → Option (List Char)
  | '\n' :: rest => some rest
  | '\r' :: '\n' :: rest => some rest
  | _ => none

/-- A character by its code point, in a fixed number of hexadecimal digits. -/
def codePoint? (count : Nat) (cs : List Char) : Option (Char × List Char) :=
  let ds := (cs.take count).filterMap Text.hexValue?
  let n := ds.foldl (fun n d => n * 16 + d) 0
  if ds.length = count ∧ n.isValidChar then some (Char.ofNat n, cs.drop count) else none

/-- What stands behind a backslash. -/
def escape? : List Char → Option (Char × List Char)
  | 'b' :: cs => some ('\x08', cs)
  | 't' :: cs => some ('\t', cs)
  | 'n' :: cs => some ('\n', cs)
  | 'f' :: cs => some ('\x0c', cs)
  | 'r' :: cs => some ('\r', cs)
  | 'e' :: cs => some ('\x1b', cs)
  | '"' :: cs => some ('"', cs)
  | '\\' :: cs => some ('\\', cs)
  | 'x' :: cs => codePoint? 2 cs
  | 'u' :: cs => codePoint? 4 cs
  | 'U' :: cs => codePoint? 8 cs
  | _ => none

def consChar (c : Char) (r : List Char × List Char) : List Char × List Char := (c :: r.1, r.2)

/-- The rest of a string in double quotes. -/
def basic? : Nat → List Char → Option (List Char × List Char)
  | 0, _ => none
  | fuel + 1, cs => match cs with
    | '"' :: rest => some ([], rest)
    | '\\' :: rest => match escape? rest with
      | some (c, rest) => (basic? fuel rest).map (consChar c)
      | none => none
    | c :: rest => if isPlain c then (basic? fuel rest).map (consChar c) else none
    | [] => none

/-- The rest of a string in single quotes. -/
def literal? : List Char → Option (List Char × List Char)
  | '\'' :: rest => some ([], rest)
  | c :: rest => if isPlain c then (literal? rest).map (consChar c) else none
  | [] => none

/-- Up to two quotes in front of the closing three belong to the string. -/
def closing (quote : Char) (cs : List Char) : List Char × List Char :=
  let extra := (cs.take 2).takeWhile (· == quote)
  (extra, cs.drop extra.length)

/-- Without the blanks and ends of lines in front, of which the first has to end the line. -/
def skipBreak? (cs : List Char) : Option (List Char) :=
  (newline? (skipGap cs)).map (·.dropWhile fun c => isGap c || c == '\n' || c == '\r')

/-- The rest of a string in three double quotes. -/
def basicLines? : Nat → List Char → Option (List Char × List Char)
  | 0, _ => none
  | fuel + 1, cs => match cs with
    | '"' :: '"' :: '"' :: rest => some (closing '"' rest)
    | '\\' :: rest => match skipBreak? rest with
      | some rest => basicLines? fuel rest
      | none => match escape? rest with
        | some (c, rest) => (basicLines? fuel rest).map (consChar c)
        | none => none
    | '\r' :: '\n' :: rest => (basicLines? fuel rest).map (consChar '\r' ∘ consChar '\n')
    | c :: rest =>
      if isPlain c || c == '\n' then (basicLines? fuel rest).map (consChar c) else none
    | [] => none

/-- The rest of a string in three single quotes. -/
def literalLines? : List Char → Option (List Char × List Char)
  | '\'' :: '\'' :: '\'' :: rest => some (closing '\'' rest)
  | '\r' :: '\n' :: rest => (literalLines? rest).map (consChar '\r' ∘ consChar '\n')
  | c :: rest => if isPlain c || c == '\n' then (literalLines? rest).map (consChar c) else none
  | [] => none

/-- An end of line right behind the opening quotes does not count. -/
def skipFirstBreak (cs : List Char) : List Char := (newline? cs).getD cs

/-- A string on one line. -/
def quoted? : List Char → Option (List Char × List Char)
  | '"' :: rest => basic? (rest.length + 1) rest
  | '\'' :: rest => literal? rest
  | _ => none

/-- A string of any form. -/
def string? : List Char → Option (List Char × List Char)
  | '"' :: '"' :: '"' :: rest => basicLines? (rest.length + 1) (skipFirstBreak rest)
  | '\'' :: '\'' :: '\'' :: rest => literalLines? (skipFirstBreak rest)
  | cs => quoted? cs

def isBareKeyChar (c : Char) : Bool := c.isAlphanum || c == '_' || c == '-'

def keyPart? (cs : List Char) : Option (String × List Char) :=
  let bare := cs.takeWhile isBareKeyChar
  if bare.isEmpty then (quoted? cs).map fun (s, rest) => (String.ofList s, rest)
  else some (String.ofList bare, cs.drop bare.length)

/-- The parts of a dotted key, with blanks around them. -/
def keyParts? : Nat → List Char → Option (List String × List Char)
  | 0, _ => none
  | fuel + 1, cs => match keyPart? (skipGap cs) with
    | none => none
    | some (part, rest) => match skipGap rest with
      | '.' :: rest => (keyParts? fuel rest).map fun (parts, rest) => (part :: parts, rest)
      | rest => some ([part], rest)

/-- How many parts a key may have, and how deep lists and tables may stand in each other. -/
def deepest : Nat := 80

def key? (cs : List Char) : Option (List String × List Char) :=
  (keyParts? (cs.length + 1) cs).filter (·.1.length ≤ deepest)

end Transit.Toml
