import Transit.Point
/-! Great-circle distances on a sphere of 6371 km radius. -/
namespace Transit.Point

def ofFloat (x : Float) : Binary64 := Binary64.ofBits x.toBits

def toFloat (x : Binary64) : Float := Float.ofBits x.toBits

def degrees (millionths : Int32) : Float := toFloat (degreeValue millionths)

def radians (x : Float) : Float := x * (3.141592653589793 / 180.0)

def sineSquare (x : Float) : Float :=
  let s := Float.sin x
  s * s

/-- Meters by the haversine formula; its sum has only one rounding. -/
def distance (p q : Point) : Binary64 :=
  let lat := radians (degrees p.lat)
  let lat' := radians (degrees q.lat)
  let north := radians (degrees q.lat - degrees p.lat)
  let east := radians (degrees q.lon - degrees p.lon)
  let a := toFloat (Binary64.mulAdd (ofFloat (Float.cos lat * Float.cos lat'))
    (ofFloat (sineSquare (east / 2.0))) (ofFloat (sineSquare (north / 2.0))))
  ofFloat (6371000.0 * (2.0 * Float.atan2 (Float.sqrt a) (Float.sqrt (1.0 - a))))

/-- Whole meters. -/
def meters (p q : Point) : UInt32 :=
  UInt32.ofNat ((distance p q).toIntClamped 0 (twoTo 32 - 1)).toNat

end Transit.Point
