import Transit.Leg
/-! Trips: connected legs from an origin to a destination, and lists that repeat nothing. -/
namespace Transit

/-- The known elements, and behind them each further one that equals none before it. -/
def addNew [BEq α] (known : List α) : List α → List α
  | [] => known
  | a :: rest => if known.contains a then addNew known rest else addNew (known ++ [a]) rest

/-- Each element once, in order of first occurrence. -/
def distinct [BEq α] (as : List α) : List α := addNew [] as

/-- The two times are those of the first and of the last leg, so that there is at least one. -/
structure Trip where
  id : String
  legs : List Leg
  firstDeparture : Instant
  lastArrival : Instant
  departs : legs.head?.bind Leg.departureTime = some firstDeparture
  arrives : legs.getLast?.bind Leg.arrivalTime = some lastArrival

namespace Trip

/-- The first leg, counted from `index`, that lacks a time. -/
def untimed? (index : Nat) : List Leg → Option Nat
  | [] => none
  | l :: rest =>
    if l.departureTime.isNone || l.arrivalTime.isNone then some index
    else untimed? (index + 1) rest

/-- The first leg, behind the one counted `index`, that starts elsewhere than the one before it
ends. -/
def gap? (index : Nat) : List Leg → Option Nat
  | a :: b :: rest =>
    if a.arrival == b.departure then gap? (index + 1) (b :: rest) else some (index + 1)
  | _ => none

/-- A leg in a derived id: when it starts, what is ridden, where it ends. -/
def legId (l : Leg) : String :=
  let start := match l.departureTime with
    | some t => toString t.second
    | none => "0"
  let what := match l with
    | .ride r => r.line.label.getD "?"
    | .individual _ => "~"
  start ++ ":" ++ what ++ ">" ++ l.arrival.shortName

def deriveId (legs : List Leg) : String := "-".intercalate (legs.map legId)

/-- A trip over connected legs that have both times each. A missing or empty id is derived. -/
def build (id : Option String) (legs : List Leg) : Except EntityError Trip :=
  if legs.isEmpty then .error .emptyTrip
  else match untimed? 0 legs with
    | some index => .error (.missingTime ("leg " ++ toString index))
    | none => match gap? 0 legs with
      | some index => .error (.disconnectedLegs index)
      | none =>
        match hd : legs.head?.bind Leg.departureTime, ha : legs.getLast?.bind Leg.arrivalTime with
        | some first, some last =>
          .ok ⟨(Location.nonEmpty id).getD (deriveId legs), legs, first, last, hd, ha⟩
        | none, _ => .error (.missingTime "first departure")
        | some _, none => .error (.missingTime "last arrival")

/-- Trips are the same when their legs are. -/
instance : BEq Trip := ⟨fun a b => a.legs == b.legs⟩

def origin (t : Trip) : Option Location := t.legs.head?.map Leg.departure

def destination (t : Trip) : Option Location := t.legs.getLast?.map Leg.arrival

def duration (t : Trip) : Duration := t.firstDeparture.elapsed t.lastArrival

def rides (t : Trip) : List PublicLeg := t.legs.filterMap Leg.ride?

def changes (t : Trip) : Nat := t.rides.length - 1

/-- No ride of it is cancelled. -/
def isTravelable (t : Trip) : Bool := !t.rides.any PublicLeg.isCancelled

def text (t : Trip) : String :=
  t.firstDeparture.clock ++ " → " ++ t.lastArrival.clock ++ " (" ++
    toString t.duration.minutes ++ "min, " ++ toString t.changes ++ " changes) " ++
    " → ".intercalate (t.rides.map (·.line.text))

def toJson (t : Trip) : Json := .obj [("id", .str t.id), ("legs", Json.list Leg.toJson t.legs)]

/-- The legs have to make a trip. -/
def ofJson? (j : Json) : Option Trip := do
  let r ← j.record? ["id", "legs"]
  let id ← r.required "id" Json.string?
  let legs ← r.required "legs" (Json.list? Leg.ofJson?)
  (build (some id) legs).toOption

def departsNoLater (a b : Trip) : Bool := a.firstDeparture ≤ b.firstDeparture

/-- By first departure; trips that start together stay in their order. -/
def sort (trips : List Trip) : List Trip := trips.mergeSort departsNoLater

end Transit.Trip
