import Transit.Binary64.Decimal
import Transit.EntityError
import Transit.Json.Record
/-! Coordinates in millionths of a degree. -/
namespace Transit

/-- Latitude and longitude in millionths of a degree. -/
structure Point where
  lat : Int32
  lon : Int32
deriving DecidableEq

namespace Point

def million : Binary64 := Binary64.ofInt 1000000

/-- Degrees as millionths: rounded with a half away from zero, and moved into the range. -/
def ofDegreeValue (degrees : Binary64) : Int32 :=
  Int32.ofInt ((degrees.mul million).toIntClamped (-twoTo 31) (twoTo 31 - 1))

def degreeValue (millionths : Int32) : Binary64 := (Binary64.ofInt millionths.toInt).div million

def onLatitude (v : Int) : Bool := -90000000 ≤ v && v ≤ 90000000

def onLongitude (v : Int) : Bool := -180000000 ≤ v && v ≤ 180000000

/-- A point of the globe. -/
def isOnGlobe (p : Point) : Bool := onLatitude p.lat.toInt && onLongitude p.lon.toInt

def ofMillionths (lat lon : Int32) : Except EntityError Point :=
  if !onLatitude lat.toInt then
    .error (.invalidCoordinate ("latitude " ++ toString lat.toInt ++ " out of range"))
  else if !onLongitude lon.toInt then
    .error (.invalidCoordinate ("longitude " ++ toString lon.toInt ++ " out of range"))
  else .ok ⟨lat, lon⟩

def ofDegrees (lat lon : Binary64) : Except EntityError Point :=
  let pair := lat.text ++ "," ++ lon.text
  if !(lat.isFinite && lon.isFinite) then .error (.invalidCoordinate (pair ++ " is not finite"))
  else if !(lat.within 90 && lon.within 180) then
    .error (.invalidCoordinate (pair ++ " out of range"))
  else .ok ⟨ofDegreeValue lat, ofDegreeValue lon⟩

/-- Degrees with six decimals. -/
def degreeText (millionths : Int32) : String :=
  let v := millionths.toInt
  Binary64.signed (v < 0) (Binary64.positional "" v.natAbs (-6))

def text (p : Point) : String := degreeText p.lat ++ "," ++ degreeText p.lon

def toJson (p : Point) : Json :=
  .obj [("lat_e6", .int p.lat.toInt), ("lon_e6", .int p.lon.toInt)]

def ofJson? (j : Json) : Option Point := do
  let r ← j.record? ["lat_e6", "lon_e6"]
  some ⟨← r.required "lat_e6" Json.int32?, ← r.required "lon_e6" Json.int32?⟩

end Transit.Point
