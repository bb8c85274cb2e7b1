import Transit.Text
/-! Tables of characters, written as text. A row starts with a code point, or with the first and the
last one of a range, of which every second one may be meant (`/2`); behind an equals sign stands what
belongs to the first of them. All numbers are hexadecimal, and the rows are in increasing order. -/
namespace Transit.Text.Table

structure Row where
  first : Nat
  last : Nat
  step : Nat
  image : List Nat

/-- The number that hexadecimal digits stand for. -/
def number (cs : List Char) : Nat :=
  cs.foldl (fun n c => n * 16 + (if c ≤ '9' then c.toNat - 48 else c.toNat - 55)) 0

def rowOf (word : List Char) : Row :=
  let (range, image) := match splitOn '=' word with
    | [range, image] => (range, (splitOn '+' image).map number)
    | _ => (word, [])
  let (range, step) := match splitOn '/' range with
    | [range, step] => (range, number step)
    | _ => (range, 1)
  match splitOn '-' range with
  | [first, last] => ⟨number first, number last, step, image⟩
  | _ => ⟨number range, number range, step, image⟩

/-- The words so far, the latest first, and the letters of one that has begun, likewise. -/
abbrev Words := List (List Char) × List Char

def endWord (w : Words) : Words := if w.2.isEmpty then w else (w.2.reverse :: w.1, [])

def stepWord (w : Words) (c : Char) : Words :=
  if c == ' ' || c == '\n' then endWord w else (w.1, c :: w.2)

/-- The words between blanks and ends of lines. -/
def words (cs : List Char) : List (List Char) := (endWord (cs.foldl stepWord ([], []))).1.reverse

def read (text : String) : Array Row := ((words text.toList).map rowOf).toArray

/-- The row of a code point between two places of the table. -/
def search (rows : Array Row) (n lo hi : Nat) : Option Row :=
  if lo < hi then
    let middle := lo + (hi - lo) / 2
    match rows[middle]? with
    | none => none
    | some row =>
      if n < row.first then search rows n lo middle
      else if row.last < n then search rows n (middle + 1) hi
      else if (n - row.first) % row.step = 0 then some row
      else none
  else none
termination_by hi - lo

def find? (rows : Array Row) (c : Char) : Option Row := search rows c.toNat 0 rows.size

def has (rows : Array Row) (c : Char) : Bool := (find? rows c).isSome

/-- The number that belongs to a character's row, zero without one. -/
def valueOf (rows : Array Row) (c : Char) : Nat :=
  match find? rows c with
  | some row => row.image.headD 0
  | none => 0

/-- What a character stands for: in a longer row, images follow each other like the characters. -/
def imageOf? (rows : Array Row) (c : Char) : Option (List Char) :=
  (find? rows c).map fun row => match row.image with
    | [n] => [Char.ofNat (n + (c.toNat - row.first))]
    | ns => ns.map Char.ofNat

end Transit.Text.Table
