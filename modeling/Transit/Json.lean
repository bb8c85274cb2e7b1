import Transit.Binary64
/-! JSON values as they stand in a text: fields keep their order and their repetitions. -/
namespace Transit

/-- `refused` is well formed but no value: a number out of range, a text with half a surrogate
pair, or a container nested too deeply. It may stand where nobody looks. -/
inductive Json
  | null
  | bool (value : Bool)
  | int (value : Int)
  | float (value : Binary64)
  | str (value : String)
  | arr (items : List Json)
  | obj (fields : List (String × Json))
  | refused

namespace Json

/-- Puts a field into a list sorted by name, in place of one of the same name. -/
def putField (name : String) (value : Json) : List (String × Json) → List (String × Json)
  | [] => [(name, value)]
  | (n, v) :: rest =>
    if name < n then (name, value) :: (n, v) :: rest
    else if name = n then (name, value) :: rest
    else (n, v) :: putField name value rest

mutual

/-- The value with fields sorted by name, the last one of each name; none if part of it is
refused. -/
def settle : Json → Option Json
  | .refused => none
  | .arr items => (settleItems items).map .arr
  | .obj fields => (settleFields [] fields).map .obj
  | j => some j

def settleItems : List Json → Option (List Json)
  | [] => some []
  | j :: rest => match settle j, settleItems rest with
    | some j, some rest => some (j :: rest)
    | _, _ => none

def settleFields (done : List (String × Json)) :
    List (String × Json) → Option (List (String × Json))
  | [] => some done
  | (name, j) :: rest => match settle j with
    | some j => settleFields (putField name j done) rest
    | none => none

end

mutual

/-- No part is refused. -/
def isSettled : Json → Bool
  | .refused => false
  | .arr items => areSettled items
  | .obj fields => fieldsSettled fields
  | _ => true

def areSettled : List Json → Bool
  | [] => true
  | j :: rest => isSettled j && areSettled rest

def fieldsSettled : List (String × Json) → Bool
  | [] => true
  | (_, j) :: rest => isSettled j && fieldsSettled rest

end

/-- A field that is left out when there is nothing to say. -/
def optionalField (name : String) (write : α → Json) : Option α → List (String × Json)
  | some a => [(name, write a)]
  | none => []

/-- A field that is null when there is nothing to say. -/
def ofOption (write : α → Json) : Option α → Json
  | some a => write a
  | none => .null

def nat (n : Nat) : Json := .int n

def list (write : α → Json) (as : List α) : Json := .arr (as.map write)

end Transit.Json
