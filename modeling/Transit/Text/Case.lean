import Transit.Text.Case.Tables
/-! Lower case of a text, as Unicode defines it without regard to language: each character has its
own lower-case form, except that a sigma at the end of a word takes the final form. -/
namespace Transit.Text.Case

def isCased (c : Char) : Bool := Table.has cased c

def isIgnorable (c : Char) : Bool := Table.has ignorable c

/-- Lower-case form of one character; only the dotted capital I has two characters. -/
def lowerChar (c : Char) : List Char :=
  if c.toNat < 0x80 then [c.toLower]
  else if c == 'İ' then ['i', '\u0307']
  else (Table.imageOf? lowered c).getD [c]

/-- The next character that is not ignored is a cased one. -/
def meetsCased (cs : List Char) : Bool :=
  match cs.dropWhile isIgnorable with
  | c :: _ => isCased c
  | [] => false

/-- Lower case of `cs`, where `before` is the text in front of it, reversed. -/
def lowerFrom (before : List Char) : List Char → List Char
  | [] => []
  | c :: cs =>
    (if c == 'Σ' then if meetsCased before && !meetsCased cs then ['ς'] else ['σ'] else lowerChar c)
      ++ lowerFrom (c :: before) cs

def lower (s : String) : String := String.ofList (lowerFrom [] s.toList)

end Transit.Text.Case
