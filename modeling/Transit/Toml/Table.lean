import Transit.Json
/-! Tables of TOML while they are being filled. A table may be spread over a text, but no key of it
may be given twice, and a table that was given by a header is not filled from elsewhere. -/
namespace Transit.Toml

/-- How a table came to be: on the way to another one, by a header of its own, or by a dotted
key. -/
inductive Origin
  | implied
  | headed
  | dotted
deriving DecidableEq

/-- A value, a table, or a list of tables with the latest one first. -/
inductive Node
  | value (j : Json)
  | table (origin : Origin) (entries : List (String × Node))
  | tables (items : List (List (String × Node)))

abbrev Entries := List (String × Node)

/-- Changes or adds the node under a key, if that can be done. -/
def alter (key : String) (change : Option Node → Option Node) : Entries → Option Entries
  | [] => (change none).map fun n => [(key, n)]
  | (k, n) :: rest =>
    if k = key then (change (some n)).map fun n => (k, n) :: rest
    else (alter key change rest).map ((k, n) :: ·)

/-- Changes the table at a path; of a list of tables it is the latest. -/
def within (change : Entries → Option Entries) : List String → Entries → Option Entries
  | [], entries => change entries
  | key :: path, entries => alter key (fun
    | none => (within change path []).map (.table .implied)
    | some (.table origin inner) => (within change path inner).map (.table origin)
    | some (.tables (latest :: older)) => (within change path latest).map fun es =>
      .tables (es :: older)
    | some _ => none) entries

def headTable : Option Node → Option Node
  | none => some (.table .headed [])
  | some (.table .implied entries) => some (.table .headed entries)
  | some _ => none

def headItem : Option Node → Option Node
  | none => some (.tables [[]])
  | some (.tables items) => some (.tables ([] :: items))
  | some _ => none

/-- Opens what the last key of a path names. -/
def openAt (head : Option Node → Option Node) (path : List String) (entries : Entries) :
    Option Entries :=
  match path.getLast? with
  | some key => within (alter key head) path.dropLast entries
  | none => none

/-- Sets the value under a dotted key. The table of the last part has to be one that dotted keys
made, unless it is the one that is being filled; `fits` tells whether it is so. -/
def put (value : Json) (fits : Bool) : List String → Entries → Option Entries
  | [], _ => none
  | [key], entries => alter key (fun
    | none => if fits then some (.value value) else none
    | some _ => none) entries
  | key :: path, entries => alter key (fun
    | none => (put value true path []).map (.table .dotted)
    | some (.table origin inner) =>
      if origin = .headed then none
      else (put value (origin = .dotted) path inner).map (.table origin)
    | some (.tables (latest :: older)) =>
      (put value false path latest).map fun es => .tables (es :: older)
    | some _ => none) entries

mutual

def Node.toJson : Node → Json
  | .value j => j
  | .table _ entries => .obj (entriesToFields entries)
  | .tables items => .arr (itemsToJson items).reverse

def entriesToFields : List (String × Node) → List (String × Json)
  | [] => []
  | (key, n) :: rest => (key, n.toJson) :: entriesToFields rest

def itemsToJson : List (List (String × Node)) → List Json
  | [] => []
  | entries :: rest => .obj (entriesToFields entries) :: itemsToJson rest

end

end Transit.Toml
