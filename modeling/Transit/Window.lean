import Transit.Trip
/-! The range of first departures that the pages of a session have covered. -/
namespace Transit

structure DepartureWindow where
  earliest : Instant
  latest : Instant
deriving DecidableEq

namespace DepartureWindow

def extend (w : DepartureWindow) (t : Instant) : DepartureWindow :=
  ⟨min w.earliest t, max w.latest t⟩

/-- The window spanned by some trips, if there are any. -/
def ofTrips : List Trip → Option DepartureWindow
  | [] => none
  | t :: rest =>
    some ((rest.map Trip.firstDeparture).foldl extend ⟨t.firstDeparture, t.firstDeparture⟩)

/-- The smallest window that covers both. -/
def union (w : DepartureWindow) : Option DepartureWindow → DepartureWindow
  | some v => ⟨min w.earliest v.earliest, max w.latest v.latest⟩
  | none => w

/-- The smallest window that covers what there is. -/
def unite : Option DepartureWindow → Option DepartureWindow → Option DepartureWindow
  | some w, v => some (w.union v)
  | none, v => v

def toJson (w : DepartureWindow) : Json :=
  .obj [("earliest", w.earliest.toJson), ("latest", w.latest.toJson)]

def ofJson? (j : Json) : Option DepartureWindow := do
  let r ← j.record? ["earliest", "latest"]
  some ⟨← r.required "earliest" Instant.ofJson?, ← r.required "latest" Instant.ofJson?⟩

def describe (w : DepartureWindow) : String :=
  "DepartureWindow \x7b earliest: " ++ w.earliest.text ++ ", latest: " ++ w.latest.text ++ " \x7d"

end DepartureWindow

inductive Direction
  | later
  | earlier
deriving DecidableEq

def Direction.name : Direction → String
  | .later => "later"
  | .earlier => "earlier"

/-- Departs strictly beyond the window in the given direction. -/
def DepartureWindow.isBefore (w : DepartureWindow) (direction : Direction) (t : Trip) : Bool :=
  match direction with
  | .later => w.latest < t.firstDeparture
  | .earlier => t.firstDeparture < w.earliest

/-- The trips beyond everything seen so far; all of them while nothing has been seen. -/
def beyond (window : Option DepartureWindow) (direction : Direction) (trips : List Trip) :
    List Trip :=
  match window with
  | some w => trips.filter (w.isBefore direction)
  | none => trips

end Transit
