import Transit.CommandLine.Grammar
import Transit.Instant.Text
import Transit.Product
/-! What can be asked for on the command line. -/
namespace Transit.CommandLine

structure TripsRequest where
  origin : String
  destination : String
  via : Option String
  time : Option Instant
  arriving : Bool
  products : Option ProductSet
  later : Nat
  earlier : Nat

/-- Zero results, and a distance of zero, stand for no limit. -/
inductive Command
  | suggest (words : String) (most : Nat)
  | nearby (place : String) (distance : UInt32) (most : Nat)
  | departures (stationId : String) (most : Nat) (equivalent : Bool)
  | trips (request : TripsRequest)

structure Invocation where
  config : Option String
  baseUrl : Option String
  json : Bool
  command : Command

/-- Values that stand in for options that are not given. -/
structure Environment where
  config : Option String := none
  baseUrl : Option String := none

/-- What the command line comes to. -/
inductive Request
  | run (i : Invocation)
  | help
  | version
  | refused

def count? (s : String) : Option Nat := Text.natBelow? (twoTo 64) s

/-- A natural number below a bound; zero may have a minus sign. -/
def signedNat? (bound : Nat) (s : String) : Option Nat :=
  match s.toList with
  | '-' :: ds => if !ds.isEmpty && ds.all (· == '0') then some 0 else none
  | _ => Text.natBelow? bound s

def distance? (s : String) : Option UInt32 := (signedNat? (twoTo 32) s).map UInt32.ofNat

def pages? (s : String) : Option Nat := signedNat? (twoTo 8) s

def products? (s : String) : Option ProductSet := (ProductSet.ofText s).toOption

def path? (s : String) : Option String := if s.isEmpty then none else some s

def switch (name : String) (letter : Option Char) (parse : String → Option α) : Switch :=
  ⟨name, letter, .value fun s => (parse s).isSome⟩

def flag (name : String) : Switch := ⟨name, none, .nothing⟩

def mostSwitch : Switch := switch "max" (some 'm') count?

def suggestGrammar : Grammar := { switches := [mostSwitch], operands := 1 }

def nearbyGrammar : Grammar :=
  { switches := [switch "distance" (some 'd') distance?, mostSwitch], operands := 1 }

def departuresGrammar : Grammar :=
  { switches := [mostSwitch, flag "equivalent"], operands := 1 }

def tripsGrammar : Grammar :=
  { switches := [switch "via" none some, switch "at" none Instant.ofText?, flag "arrive",
      switch "products" none products?, switch "later" none pages?,
      switch "earlier" none pages?]
    operands := 2 }

def mainGrammar : Grammar :=
  { switches := [⟨"verbose", some 'v', .repeatedly⟩, switch "config" (some 'c') path?,
      switch "base-url" none some, flag "json"]
    commands := ["suggest", "nearby", "departures", "trips"]
    hasVersion := true }

def suggestOf? (g : Given) : Option Command :=
  match g.operands with
  | [words] => (g.read "max" 0 count?).map (.suggest words)
  | _ => none

def nearbyOf? (g : Given) : Option Command :=
  match g.operands with
  | [place] => do
    some (.nearby place (← g.read "distance" 0 distance?) (← g.read "max" 0 count?))
  | _ => none

def departuresOf? (g : Given) : Option Command :=
  match g.operands with
  | [stationId] => (g.read "max" 0 count?).map (.departures stationId · (g.has "equivalent"))
  | _ => none

def tripsOf? (g : Given) : Option Command :=
  match g.operands with
  | [origin, destination] => do
    some (.trips {
      origin, destination
      via := g.value? "via"
      time := ← g.readOptional "at" Instant.ofText?
      arriving := g.has "arrive"
      products := ← g.readOptional "products" products?
      later := ← g.read "later" 0 pages?
      earlier := ← g.read "earlier" 0 pages? })
  | _ => none

/-- How a subcommand is read, and what it makes of what it is given. -/
def subcommand? : String → Option (Grammar × (Given → Option Command))
  | "suggest" => some (suggestGrammar, suggestOf?)
  | "nearby" => some (nearbyGrammar, nearbyOf?)
  | "departures" => some (departuresGrammar, departuresOf?)
  | "trips" => some (tripsGrammar, tripsOf?)
  | _ => none

/-- Options come before the environment. A path must not be empty, wherever it comes from. -/
def invocation (env : Environment) (g : Given) (command : Command) : Request :=
  match g.value? "config" <|> env.config with
  | some "" => .refused
  | config =>
    .run { config, baseUrl := g.value? "base-url" <|> env.baseUrl, json := g.has "json", command }

def readCommand (env : Environment) (g : Given) (name : String) (args : List String) : Request :=
  match subcommand? name with
  | none => .refused
  | some (grammar, build) => match grammar.read {} args with
    | .given inner => match build inner with
      | some command => invocation env g command
      | none => .refused
    | .help => .help
    | _ => .refused

def read (env : Environment) (args : List String) : Request :=
  match mainGrammar.read {} args with
  | .command g name rest => readCommand env g name rest
  | .help => .help
  | .version => .version
  | _ => .refused

end Transit.CommandLine
