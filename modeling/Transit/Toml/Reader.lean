import Transit.Toml.Quoted
import Transit.Toml.Scalar
import Transit.Toml.Table
/-! Reading TOML, as JSON. -/
namespace Transit.Toml

/-- Without blanks, ends of lines and comments in front. The flag tells that a comment has begun. -/
def skipLines : Bool → List Char → List Char
  | _, [] => []
  | _, '\n' :: cs => skipLines false cs
  | _, '\r' :: '\n' :: cs => skipLines false cs
  | true, c :: cs => if isPlain c then skipLines true cs else c :: cs
  | false, '#' :: cs => skipLines true cs
  | false, c :: cs => if isGap c then skipLines false cs else c :: cs

/-- A key and the equals sign behind it. -/
def assigned? (cs : List Char) : Option (List String × List Char) :=
  match key? cs with
  | some (path, '=' :: rest) => some (path, rest)
  | _ => none

mutual

/-- A value; `room` is how many more lists and tables may stand in each other. -/
def value? : Nat → Nat → List Char → Option (Json × List Char)
  | 0, _, _ => none
  | fuel + 1, room, cs => match cs, room with
    | '[' :: _, 0 | '{' :: _, 0 => none
    | '[' :: rest, room + 1 =>
      (items? fuel room (skipLines false rest)).map fun (js, rest) => (.arr js, rest)
    | '{' :: rest, room + 1 =>
      (inline? fuel room [] (skipLines false rest)).map fun (entries, rest) =>
        (.obj (entriesToFields entries), rest)
    | '"' :: _, _ | '\'' :: _, _ =>
      (string? cs).map fun (s, rest) => (.str (String.ofList s), rest)
    | _, _ =>
      let token := scalarChars cs
      (scalar? token).map fun j => (j, cs.drop token.length)

/-- The items up to the closing bracket, which may have a comma in front. -/
def items? : Nat → Nat → List Char → Option (List Json × List Char)
  | 0, _, _ => none
  | fuel + 1, room, cs => match cs with
    | ']' :: rest => some ([], rest)
    | _ => match value? fuel room cs with
      | none => none
      | some (j, rest) => match skipLines false rest with
        | ']' :: rest => some ([j], rest)
        | ',' :: rest =>
          (items? fuel room (skipLines false rest)).map fun (js, rest) => (j :: js, rest)
        | _ => none

/-- The entries up to the closing brace, which may have a comma in front. -/
def inline? : Nat → Nat → Entries → List Char → Option (Entries × List Char)
  | 0, _, _, _ => none
  | fuel + 1, room, entries, cs => match cs with
    | '}' :: rest => some (entries, rest)
    | _ => match assigned? cs with
      | none => none
      | some (path, rest) => match value? fuel room (skipGap rest) with
        | none => none
        | some (j, rest) => match put j true path entries, skipLines false rest with
          | some entries, '}' :: rest => some (entries, rest)
          | some entries, ',' :: rest => inline? fuel room entries (skipLines false rest)
          | _, _ => none

end

/-- The lines behind the end of this one, which may carry a comment. -/
def endLine? (cs : List Char) : Option (List Char) :=
  let cs := match skipGap cs with
    | '#' :: rest => rest.dropWhile isPlain
    | cs => cs
  match cs with
  | [] => some []
  | _ => newline? cs

/-- All tables, and the path of the one that is being filled. -/
structure Document where
  entries : Entries := []
  path : List String := []

namespace Document

def head (d : Document) (how : Option Node → Option Node) (path : List String) : Option Document :=
  (openAt how path d.entries).map (⟨·, path⟩)

def set (d : Document) (path : List String) (j : Json) : Option Document :=
  (within (put j true path) d.path d.entries).map (⟨·, d.path⟩)

/-- A header, or a key and its value. -/
def expression? (d : Document) : List Char → Option (Document × List Char)
  | '[' :: '[' :: cs => match key? cs with
    | some (path, ']' :: ']' :: rest) => (d.head headItem path).map (·, rest)
    | _ => none
  | '[' :: cs => match key? cs with
    | some (path, ']' :: rest) => (d.head headTable path).map (·, rest)
    | _ => none
  | cs => do
    let (path, rest) ← assigned? cs
    let (j, rest) ← value? (rest.length + 1) deepest (skipGap rest)
    some (← d.set path j, rest)

def readLines : Nat → Document → List Char → Option Document
  | 0, _, _ => none
  | fuel + 1, d, cs => match skipLines false cs with
    | [] => some d
    | cs => match d.expression? cs with
      | none => none
      | some (d, rest) => match endLine? rest with
        | some rest => readLines fuel d rest
        | none => none

end Document

/-- A text may start with a byte order mark. -/
def ofText? (s : String) : Option Json :=
  let cs := match s.toList with
    | '\ufeff' :: rest => rest
    | cs => cs
  (Document.readLines (cs.length + 1) {} cs).map fun d => .obj (entriesToFields d.entries)

end Transit.Toml
