import Transit.Text.Case
import Transit.Hafas.Answer
import Transit.Hafas.Convert
import Transit.Hafas.Request
import Transit.Result.Header
/-! Clients of one backend: requests, and location lookups. -/
namespace Transit.Hafas

structure Client where
  config : Config
  baseUrl : Url
  triage : Triage

/-- What a request gives, unless it fails. -/
abbrev Fetched (σ α : Type) := ExceptT Error (StateM σ) α

namespace Client

variable {σ α : Type}

/-- A header line takes a tab, but no other control character. -/
def isHeaderChar (c : Char) : Bool := c == '\t' || (' ' ≤ c && c != '\x7f')

/-- A client for good settings. -/
def create (config : Config) (triage : Triage) : Except Error Client :=
  match config.complaint? with
  | some complaint => .error (.configuration complaint)
  | none => match Url.ofText? config.baseUrl with
    | none => .error (.configuration "invalid URL")
    | some baseUrl =>
      if config.userAgent.toList.all isHeaderChar then .ok ⟨config, baseUrl, triage⟩
      else .error (.connectionFailed "builder error")

def endpoint (c : Client) (segments : List String) : Except Error Url :=
  match c.baseUrl.descend? segments with
  | some url => .ok url
  | none => .error (.configuration ("base_url cannot carry a path: " ++ c.baseUrl.text))

/-- Names the host as the network. A time is given in seconds. -/
def header (c : Client) (updatedAt : Option Int) : ResultHeader :=
  { network := c.baseUrl.hostText?.getD providerName
    serverProduct := "hafas-rest-api"
    serverTime := updatedAt.bind fun second => Instant.of? second 0 }

/-- The configured limit stands in for none. -/
def limit (c : Client) (requested : Nat) : Nat :=
  if requested = 0 then c.config.maxResults else requested

def fetch (c : Client) (backend : Backend σ) (segments : List String) (params : Params) :
    Fetched σ (Url × String) := do
  let url ← c.endpoint segments
  let answer ← backend (url.withParams params)
  answer.body c.config c.triage

/-- A good answer has to be JSON that can be read. -/
def readBody (read : Json → Option α) (body : String) : Except Error α :=
  match (Json.ofText? body).bind read with
  | some a => .ok a
  | none => .error (.parse "the body cannot be read")

def fetchAs (c : Client) (backend : Backend σ) (read : Json → Option α) (segments : List String)
    (params : Params) : Fetched σ (Url × α) := do
  let (address, body) ← c.fetch backend segments params
  return (address, ← readBody read body)

/-- The readable ones of some locations, as far as their types are wanted. -/
def locationsOf (types : LocationTypes) (raw : List RawLocation) : List Location :=
  (raw.filterMap RawLocation.toLocation?).filter (types.contains ·.kind)

def search (c : Client) (backend : Backend σ) (words : String) (types : LocationTypes)
    (limit : Nat) : Fetched σ (List Location) := do
  let (_, raw) ← c.fetchAs backend (Json.list? RawLocation.ofJson?) ["locations"]
    (searchParams c.config words types limit)
  return locationsOf types raw

/-- Where a station is, if the backend knows. -/
def stationCoordinate (c : Client) (backend : Backend σ) (id : String) :
    Fetched σ (Option Point) := do
  let (_, raw) ← c.fetchAs backend RawLocation.ofJson? ["stops", id] (stationParams c.config)
  return raw.toLocation?.bind Location.coordinate

/-- What a named place resolves to. -/
inductive Resolution
  | unique (location : Location)
  | ambiguous (candidates : List Location)
  | unknown

def Resolution.candidates : Resolution → List Location
  | .ambiguous ls => ls
  | _ => []

/-- Has the name, up to the case of letters. -/
def isNamed (name : String) (l : Location) : Bool :=
  l.name.any fun n => Text.Case.lower n == Text.Case.lower name

/-- The one candidate with the very name, else the only one. -/
def choose (name : String) (candidates : List Location) : Resolution :=
  match candidates.find? (isNamed name), candidates with
  | some l, _ => .unique l
  | none, [] => .unknown
  | none, [l] => .unique l
  | none, ls => .ambiguous ls

/-- The name to look a location up by, if that is to be done. -/
def nameOf (l : Location) : String := Text.trim (l.name.getD "")

/-- Looks up what is only named; a blank name is not known. -/
def resolve (c : Client) (backend : Backend σ) (l : Location) : Fetched σ Resolution :=
  if !l.isUnresolved then return .unique l
  else if (nameOf l).isEmpty then return .unknown
  else do
    return choose (nameOf l) (← c.search backend (nameOf l) .all c.config.maxResults)

end Transit.Hafas.Client
