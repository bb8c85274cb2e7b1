import Transit.Text
/-! Options, operands and subcommands on a command line. Options are read from left to right, so
that the first mistake, or the first request for help, decides. -/
namespace Transit.CommandLine

/-- What an option takes: nothing, nothing but any number of times, or a value. -/
inductive Takes
  | nothing
  | repeatedly
  | value (accepts : String → Bool)

structure Switch where
  name : String
  letter : Option Char := none
  takes : Takes

/-- A command has a fixed number of operands, or else subcommands. -/
structure Grammar where
  switches : List Switch
  operands : Nat := 0
  commands : List String := []
  hasVersion : Bool := false

/-- Options by name in order, a text of their own for those without a value, and operands. -/
structure Given where
  options : List (String × String) := []
  operands : List String := []

namespace Given

def has (g : Given) (name : String) : Bool := g.options.any (·.1 == name)

def value? (g : Given) (name : String) : Option String := g.options.lookup name

/-- The value of an option, or what stands in for it when it is not given. -/
def read (g : Given) (name : String) (usual : α) (parse : String → Option α) : Option α :=
  match g.value? name with
  | some s => parse s
  | none => some usual

def readOptional (g : Given) (name : String) (parse : String → Option α) : Option (Option α) :=
  g.read name none fun s => (parse s).map some

def isRepeatable : Takes → Bool
  | .repeatedly => true
  | _ => false

/-- Most options can be given only once. -/
def add (g : Given) (s : Switch) (value : String) : Option Given :=
  if g.has s.name && !isRepeatable s.takes then none
  else some { g with options := g.options ++ [(s.name, value)] }

end Given

/-- What the command line comes to. -/
inductive Reading
  | given (g : Given)
  | command (g : Given) (name : String) (rest : List String)
  | help
  | version
  | refused

/-- What one argument with options comes to: the value of the last one may be still to come. -/
inductive Step
  | done (g : Given)
  | pending (g : Given) (s : Switch)
  | help
  | version
  | refused

namespace Grammar

def isOption (arg : String) : Bool :=
  match arg.toList with
  | '-' :: _ :: _ => true
  | _ => false

def accept (g : Given) (s : Switch) (value : String) : Option Given :=
  match s.takes with
  | .value accepts => if accepts value then g.add s value else none
  | _ => none

def acceptStep (g : Given) (s : Switch) (value : String) : Step :=
  match accept g s value with
  | some g => .done g
  | none => .refused

/-- An option by its name, with a value behind an equals sign or not. -/
def nameStep (r : Grammar) (g : Given) (name : String) (value : Option String) : Step :=
  match r.switches.find? (·.name == name), value with
  | some s, some value => acceptStep g s value
  | some s, none => match s.takes with
    | .value _ => .pending g s
    | _ => match g.add s "" with
      | some g => .done g
      | none => .refused
  | none, none =>
    if name = "help" then .help
    else if name = "version" && r.hasVersion then .version
    else .refused
  | none, some _ => .refused

/-- Options by their letters. The first one that takes a value has it in the rest, if there is a
rest. -/
def letterStep (r : Grammar) (g : Given) : List Char → Step
  | [] => .done g
  | c :: rest => match r.switches.find? (·.letter == some c) with
    | some s => match s.takes, rest with
      | .value _, [] => .pending g s
      | .value _, '=' :: value => acceptStep g s (String.ofList value)
      | .value _, value => acceptStep g s (String.ofList value)
      | _, _ => match g.add s "" with
        | some g => letterStep r g rest
        | none => .refused
    | none =>
      if c = 'h' then .help
      else if c = 'V' && r.hasVersion then .version
      else .refused

def step (r : Grammar) (g : Given) (arg : String) : Step :=
  match arg.toList with
  | '-' :: '-' :: cs => match Text.splitAt? (· == '=') cs with
    | some (name, value) => r.nameStep g (String.ofList name) (some (String.ofList value))
    | none => r.nameStep g (String.ofList cs) none
  | _ :: cs => r.letterStep g cs
  | [] => .refused

/-- All operands have to be there, and no more. -/
def finish (r : Grammar) (g : Given) : Reading :=
  if g.operands.length = r.operands && r.commands.isEmpty then .given g else .refused

/-- Help on this command or on one of its subcommands. -/
def helpOn (r : Grammar) : List String → Reading
  | [] => .help
  | [name] => if name = "help" || r.commands.contains name then .help else .refused
  | _ => .refused

def addOperand (r : Grammar) (g : Given) (arg : String) : Option Given :=
  if g.operands.length < r.operands then some { g with operands := g.operands ++ [arg] } else none

/-- A value is not taken from an argument that looks like an option. -/
def read (r : Grammar) (g : Given) : List String → Reading
  | [] => r.finish g
  | arg :: rest =>
    if arg = "--" then r.finish { g with operands := g.operands ++ rest }
    else if isOption arg then
      match r.step g arg with
      | .done g => read r g rest
      | .pending g s => match rest with
        | [] => .refused
        | value :: rest =>
          if isOption value then .refused
          else match accept g s value with
            | some g => read r g rest
            | none => .refused
      | .help => .help
      | .version => .version
      | .refused => .refused
    else if r.commands.contains arg then .command g arg rest
    else if arg = "help" && !r.commands.isEmpty then r.helpOn rest
    else match r.addOperand g arg with
      | some g => read r g rest
      | none => .refused

end Transit.CommandLine.Grammar
