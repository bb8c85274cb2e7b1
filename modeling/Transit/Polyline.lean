import Transit.Point
/-! Encoded polylines. Each coordinate is the difference to the one before, in hundred-thousandths
of a degree, written in groups of five bits that are moved into the printable range. -/
namespace Transit.Polyline

/-- A signed number as a natural one: the sign goes into the lowest bit. -/
def fold (v : Int) : Nat := if v < 0 then (-2 * v - 1).toNat else (2 * v).toNat

def unfold (n : Nat) : Int := if n % 2 = 1 then -(n / 2 : Nat) - 1 else (n / 2 : Nat)

/-- The byte of a group; groups are below 64. -/
def groupByte (group : Nat) : UInt8 := UInt8.ofNat group + 63

/-- Groups of five bits, lowest first; all but the last are marked with 32. -/
def groups (n : Nat) : List Nat :=
  if n < 32 then [n] else (32 + n % 32) :: groups (n / 32)
termination_by n
decreasing_by omega

def writeValue (v : Int) : List UInt8 := (groups (fold v)).map groupByte

/-- Reads groups into `low`, which holds `shift` bits already, up to one without mark. -/
def readGroups (shift low : Nat) : List UInt8 → Option (Int × List UInt8)
  | [] => none
  | b :: rest =>
    if b < 63 || 126 < b || 30 < shift then none
    else
      let group := (b - 63).toNat
      let low := low + group % 32 * twoTo shift
      if group < 32 then some (unfold low, rest) else readGroups (shift + 5) low rest

/-- One value, and the bytes behind it; none when it is cut off, too long or not in the
alphabet. -/
def readValue (bytes : List UInt8) : Option (Int × List UInt8) := readGroups 0 0 bytes

theorem readGroups_length {shift low : Nat} {bytes rest : List UInt8} {v : Int}
    (h : readGroups shift low bytes = some (v, rest)) : rest.length < bytes.length := by
  induction bytes generalizing shift low with
  | nil => simp [readGroups] at h
  | cons b bytes ih =>
    simp only [readGroups] at h
    split at h
    · simp at h
    · split at h
      · simp only [Option.some.injEq, Prod.mk.injEq] at h
        simp [h.2]
      · have := ih h
        simp only [List.length_cons]
        omega

/-- The values up to the first one that cannot be read. -/
def values (bytes : List UInt8) : List Int :=
  match _ : readValue bytes with
  | some (v, rest) => v :: values rest
  | none => []
termination_by bytes.length
decreasing_by exact readGroups_length (by assumption)

/-- Ten units of the format, if they fit 32 bits. -/
def millionths? (v : Int) : Option Int32 :=
  let e6 := v * 10
  if -twoTo 31 ≤ e6 ∧ e6 < twoTo 31 then some (Int32.ofInt e6) else none

/-- The points reached from a start by pairs of differences, up to the first one out of range. -/
def track (lat lon : Int) : List Int → List Point
  | north :: east :: rest =>
    let lat := lat + north
    let lon := lon + east
    match millionths? lat, millionths? lon with
    | some y, some x => ⟨y, x⟩ :: track lat lon rest
    | _, _ => []
  | _ => []

def decodeBytes (bytes : List UInt8) : List Point := track 0 0 (values bytes)

/-- The points up to the last one that is complete; what follows is ignored. -/
def decode (s : String) : List Point := decodeBytes s.toUTF8.toList

/-- Hundred-thousandths of a degree, a half going away from zero. -/
def rounded (millionths : Int32) : Int :=
  let v := millionths.toInt
  if 0 ≤ v then (v + 5).tdiv 10 else (v - 5).tdiv 10

def encodeFrom (lat lon : Int) : List Point → List UInt8
  | [] => []
  | p :: rest =>
    writeValue (rounded p.lat - lat) ++ writeValue (rounded p.lon - lon) ++
      encodeFrom (rounded p.lat) (rounded p.lon) rest

def encodeBytes (points : List Point) : List UInt8 := encodeFrom 0 0 points

def encode (points : List Point) : String :=
  String.ofList ((encodeBytes points).map fun b => Char.ofNat b.toNat)

end Transit.Polyline
