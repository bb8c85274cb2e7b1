import Transit.Json
/-! Reading typed values out of JSON. A record may be an object, whose further fields are ignored,
or a list of its fields in order. -/
namespace Transit.Json

def string? : Json → Option String
  | .str s => some s
  | _ => none

def bool? : Json → Option Bool
  | .bool b => some b
  | _ => none

/-- An integer from `lo` to `hi`. -/
def intIn? (lo hi : Int) : Json → Option Int
  | .int n => if lo ≤ n ∧ n ≤ hi then some n else none
  | _ => none

/-- A natural number below `bound`. -/
def natBelow? (bound : Nat) : Json → Option Nat
  | .int n => if 0 ≤ n ∧ n < bound then some n.toNat else none
  | _ => none

def int32? (j : Json) : Option Int32 := (intIn? (-twoTo 31) (twoTo 31 - 1) j).map Int32.ofInt

def uint32? (j : Json) : Option UInt32 := (natBelow? (twoTo 32) j).map UInt32.ofNat

def uint8? (j : Json) : Option UInt8 := (natBelow? (twoTo 8) j).map UInt8.ofNat

/-- A count or a number of seconds. -/
def count? : Json → Option Nat := natBelow? (twoTo 64)

def number? : Json → Option Binary64
  | .int n => some (Binary64.ofInt n)
  | .float x => some x
  | _ => none

def readAll (read : α → Option β) : List α → Option (List β)
  | [] => some []
  | a :: as => match read a, readAll read as with
    | some b, some bs => some (b :: bs)
    | _, _ => none

def list? (read : Json → Option α) : Json → Option (List α)
  | .arr items => readAll read items
  | _ => none

def nullable (read : Json → Option α) : Json → Option (Option α)
  | .null => some none
  | j => (read j).map some

/-- What says nothing: null, and in some places also an empty object. -/
inductive Blank
  | null
  | nullOrEmpty
deriving DecidableEq

def Blank.admits (blank : Blank) : Json → Bool
  | .null => true
  | .obj [] => blank = .nullOrEmpty
  | _ => false

/-- One of some names, by itself or as the only field of an object, with a value that says
nothing. -/
def choiceWith? (blank : Blank) (names : List (String × α)) : Json → Option α
  | .str s => names.lookup s
  | .obj [(s, j)] => if blank.admits j then names.lookup s else none
  | _ => none

def choice? (names : List (String × α)) : Json → Option α := choiceWith? .null names

/-- The fields that were given, and whether as a list. -/
structure Record where
  asList : Bool
  fields : List (String × Json)

/-- A record with the given field names. None of them may be given twice, and a list may not be
longer than they are. -/
def record? (names : List String) : Json → Option Record
  | .obj fields =>
    if names.all (fun n => (fields.filter (·.1 == n)).length ≤ 1) then some ⟨false, fields⟩
    else none
  | .arr items => if items.length ≤ names.length then some ⟨true, names.zip items⟩ else none
  | _ => none

namespace Record

def get? (r : Record) (name : String) : Option Json := r.fields.lookup name

def required (r : Record) (name : String) (read : Json → Option α) : Option α :=
  (r.get? name).bind read

/-- May be null; may be missing in an object. -/
def optional (r : Record) (name : String) (read : Json → Option α) : Option (Option α) :=
  match r.get? name with
  | some j => nullable read j
  | none => if r.asList then none else some none

/-- May be null, and may be missing. -/
def omissible (r : Record) (name : String) (read : Json → Option α) : Option (Option α) :=
  match r.get? name with
  | some j => nullable read j
  | none => some none

/-- May be missing, but not null. -/
def defaulted (r : Record) (name : String) (default : α) (read : Json → Option α) : Option α :=
  match r.get? name with
  | some j => read j
  | none => some default

end Transit.Json.Record
