import Transit.Result.Departures
import Transit.Result.Locations
import Transit.Result.Trips
/-! Results as plain text, in lines. -/
namespace Transit.Render

def line (s : String) : String := s ++ "\n"

/-- The lines, or a word about there being none. -/
def linesOr (none : String) (lines : List String) : String :=
  if lines.isEmpty then line none else String.join (lines.map line)

def statusLine (name : String) : String := line ("Status: " ++ name)

def location (l : Location) : String :=
  l.kind.label ++ ": " ++ l.text ++ (l.id.map fun id => " [" ++ id ++ "]").getD ""

def suggestion (s : SuggestedLocation) : String :=
  Text.padLeft ' ' 4 (toString s.priority.toInt) ++ "  " ++ location s.location

def suggestions (r : SuggestResult) : String :=
  linesOr "No suggestions" (r.suggestions.map suggestion)

def nearby (r : NearbyResult) : String :=
  if r.status = .ok then linesOr "Nothing nearby" (r.locations.map location)
  else statusLine r.status.name

def signedText (n : Int) : String := if n < 0 then toString n else "+" ++ toString n

/-- Shown from one whole minute on, either way. -/
def delayText : Option Duration → String
  | some d => if d.minutes = 0 then "" else " (" ++ signedText d.minutes ++ ")"
  | none => ""

def departure (d : Departure) : String :=
  d.time.clock ++ delayText d.delay ++ " " ++ d.line.text ++
    (d.destination.map fun l => " → " ++ l.text).getD "" ++
    (d.position.map fun p => " [" ++ p.name ++ "]").getD "" ++
    (d.message.map fun m => " ! " ++ m).getD ""

def board (b : StationDepartures) : List String :=
  b.location.text :: b.departures.map fun d => "  " ++ departure d

def departures (r : DeparturesResult) : String :=
  if r.status = .ok then linesOr "No departures" (r.boards.flatMap board)
  else statusLine r.status.name

def candidates (role : String) (ls : List Location) : List String :=
  if ls.isEmpty then []
  else ("Did you mean (" ++ role ++ "):") :: ls.map fun l => "  " ++ location l

/-- What became of a search without trips. -/
def outcome (r : TripsResult) : String :=
  statusLine r.status.name ++
    String.join ((candidates "from" r.ambiguousFrom ++ candidates "via" r.ambiguousVia ++
      candidates "to" r.ambiguousTo).map line)

def clock (t : Option Instant) : String := (t.map Instant.clock).getD "--:--"

def means : Leg → String
  | .ride l => l.line.text
  | .individual l => l.kind.label ++ " " ++ toString l.distance.toNat ++ "m"

def leg (l : Leg) : String :=
  clock l.departureTime ++ " " ++ l.departure.text ++ " → " ++ clock l.arrivalTime ++ " " ++
    l.arrival.text ++ " (" ++ means l ++ ")"

def trip (t : Trip) : List String := t.text :: t.legs.map fun l => "    " ++ leg l

def trips (ts : List Trip) : String := linesOr "No trips" (ts.flatMap trip)

end Transit.Render
