import Transit.CommandLine.Invocation
import Transit.Hafas.Journeys
import Transit.Pager
import Transit.Render
import Transit.Toml.Reader
/-! Running what was asked for. The files, the current time and the backend come from outside. -/
namespace Transit.CommandLine

/-- Where a run takes place. -/
structure World (σ : Type) where
  file : String → Option String
  now : Instant
  backend : Hafas.Backend σ

/-- The output, unless there is something to complain about. -/
abbrev Report := Except String String

/-- The settings may be given as a list, whose further items nobody looks at. -/
def settings : String × Json → String × Json
  | ("hafas", .arr items) => ("hafas", .arr (items.take Hafas.Config.fieldNames.length))
  | field => field

/-- The settings in a file, which are in a table of their own. -/
def configOf? (text : String) : Option Hafas.Config := do
  match ← Toml.ofText? text with
  | .obj fields =>
    let fields := fields.map settings
    let r ← (Json.obj fields).record? ["hafas"]
    if Json.fieldsSettled fields then r.defaulted "hafas" {} Hafas.Config.ofJson? else none
  | _ => none

def fileConfig (file : String → Option String) : Option String → Except String Hafas.Config
  | none => .ok {}
  | some path => match file path with
    | none => .error ("reading " ++ path)
    | some text => match configOf? text with
      | none => .error ("parsing " ++ path)
      | some config => .ok config

def withBase (config : Hafas.Config) : Option String → Hafas.Config
  | some baseUrl => { config with baseUrl }
  | none => config

def loadClient (file : String → Option String) (i : Invocation) : Except String Hafas.Client :=
  match fileConfig file i.config with
  | .error m => .error m
  | .ok config =>
    (Hafas.Client.create (withBase config i.baseUrl) .usual).mapError Hafas.Error.message

/-- Two numbers with a comma between them. -/
def coordinates? (cs : List Char) : Option (Binary64 × Binary64) := do
  let (lat, lon) ← Text.splitAt? (· == ',') cs
  some (← Binary64.ofText? (String.ofList (Text.strip lat)),
    ← Binary64.ofText? (String.ofList (Text.strip lon)))

/-- A coordinate, else the id of a station if there are only digits, else a name. -/
def locationOf (s : String) : Except String Location :=
  let cs := Text.strip s.toList
  match coordinates? cs with
  | some (lat, lon) => ((Point.ofDegrees lat lon).map Location.atPoint).mapError EntityError.message
  | none =>
    if !cs.isEmpty && cs.all Text.isDigit then .ok (Location.station (String.ofList cs))
    else .ok (Location.any (String.ofList cs))

/-- A result as JSON on several lines, or as text. -/
def shown (json : Bool) (j : Json) (text : String) : String :=
  if json then j.pretty ++ "\n" else text

/-- What is shown of a result, or the complaint about its absence. -/
def reportOf (write : α → String) : Outcome α → Report
  | .ok a => .ok (write a)
  | .error e => .error e.message

variable {σ : Type}

def runSuggest (p : Provider σ) (json : Bool) (words : String) (most : Nat) : StateM σ Report := do
  let result ← p.suggestLocations { words, maxResults := most }
  return reportOf (fun r => shown json r.toJson (Render.suggestions r)) result

def runNearby (p : Provider σ) (json : Bool) (place : String) (distance : UInt32) (most : Nat) :
    StateM σ Report :=
  match locationOf place with
  | .error m => return .error m
  | .ok anchor => do
    let result ← p.queryNearby { anchor, maxDistance := distance, maxResults := most }
    return reportOf (fun r => shown json r.toJson (Render.nearby r)) result

def runDepartures (p : Provider σ) (json : Bool) (stationId : String) (most : Nat)
    (equivalent : Bool) : StateM σ Report := do
  let result ← p.queryDepartures
    { stationId, maxDepartures := most, equivalentStations := equivalent }
  return reportOf (fun r => shown json r.toJson (Render.departures r)) result

/-- Without a time, the current one. -/
def tripsQuery (now : Instant) (t : TripsRequest) : Except String TripsQuery := do
  let origin ← locationOf t.origin
  let destination ← locationOf t.destination
  return {
    origin, destination
    via := t.via.map Location.station
    time := t.time.getD now
    departing := !t.arriving
    options := { products := t.products } }

/-- Loads up to a number of pages in a direction, as long as it is open. -/
def loadPages (p : Provider σ) (direction : Direction) : Nat → Pager → StateM σ (Outcome Pager)
  | 0, pager => return .ok pager
  | count + 1, pager =>
    if pager.context.isOpen direction then do
      match ← Pager.more p pager direction with
      | (.error e, _) => return .error e
      | (.ok _, pager) => loadPages p direction count pager
    else return .ok pager

/-- First the later pages, then the earlier ones. -/
def loadAll (p : Provider σ) (t : TripsRequest) (pager : Pager) : StateM σ (Outcome Pager) := do
  match ← loadPages p .later t.later pager with
  | .error e => return .error e
  | .ok pager => loadPages p .earlier t.earlier pager

def runSession (p : Provider σ) (json : Bool) (t : TripsRequest) (q : TripsQuery) :
    StateM σ Report := do
  match ← Pager.start p q with
  | .error e => return .error e.message
  | .ok (.closed r) => return .ok (shown json r.toJson (Render.outcome r))
  | .ok (.opened pager) =>
    let result ← loadAll p t pager
    return reportOf (fun pager =>
      shown json (Json.list Trip.toJson pager.trips) (Render.trips pager.trips)) result

def runTrips (p : Provider σ) (now : Instant) (json : Bool) (t : TripsRequest) :
    StateM σ Report :=
  match tripsQuery now t with
  | .error m => return .error m
  | .ok q => runSession p json t q

def runCommand (p : Provider σ) (now : Instant) (json : Bool) : Command → StateM σ Report
  | .suggest words most => runSuggest p json words most
  | .nearby place distance most => runNearby p json place distance most
  | .departures stationId most equivalent => runDepartures p json stationId most equivalent
  | .trips t => runTrips p now json t

def run (w : World σ) (i : Invocation) : StateM σ Report :=
  match loadClient w.file i with
  | .error m => return .error m
  | .ok client => runCommand (client.provider w.backend) w.now i.json i.command

/-- The exit code, what is printed, and the complaint. -/
structure Exit where
  code : Nat
  output : String := ""
  complaint : Option String := none

def helpText : String :=
  "Query public transit backends\n\nUsage: transit-cli [OPTIONS] <COMMAND>\n\nCommands: " ++
    ", ".intercalate mainGrammar.commands ++ "\n"

def versionText : String := "transit-cli 0.1.0\n"

def exitOf : Report → Exit
  | .ok output => { code := 0, output }
  | .error m => { code := 1, complaint := some m }

/-- A command line that cannot be read ends with code 2, a failed run with code 1. -/
def execute (w : World σ) (env : Environment) (args : List String) : StateM σ Exit :=
  match read env args with
  | .run i => do return exitOf (← run w i)
  | .help => return { code := 0, output := helpText }
  | .version => return { code := 0, output := versionText }
  | .refused => return { code := 2 }

end Transit.CommandLine
