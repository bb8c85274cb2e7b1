/-! Instants on the UTC time line, with leap seconds, their order, and the calendar. -/
namespace Transit

/-- A day of the proleptic Gregorian calendar. -/
structure Date where
  year : Int
  month : Nat
  day : Nat
deriving DecidableEq

namespace Date

def isLeap (year : Int) : Bool := year % 4 == 0 && (year % 100 != 0 || year % 400 == 0)

def monthLength (year : Int) (month : Nat) : Nat :=
  if month == 2 then if isLeap year then 29 else 28
  else if month == 4 || month == 6 || month == 9 || month == 11 then 30 else 31

def isReal (d : Date) : Bool :=
  -262143 ≤ d.year && d.year ≤ 262142 && 1 ≤ d.month && d.month ≤ 12 && 1 ≤ d.day &&
    d.day ≤ monthLength d.year d.month

/-- Days since 1970-01-01. The year is taken to start in March, so that a leap day is its last
day. -/
def toDays (d : Date) : Int :=
  let y := if d.month ≤ 2 then d.year - 1 else d.year
  let era := y / 400
  let yearOfEra := y - era * 400
  let dayOfYear : Int := (153 * ((d.month + 9) % 12) + 2) / 5 + d.day - 1
  era * 146097 + yearOfEra * 365 + yearOfEra / 4 - yearOfEra / 100 + dayOfYear - 719468

/-- The date that lies this many days after 1970-01-01. -/
def ofDays (days : Int) : Date :=
  let z := days + 719468
  let era := z / 146097
  let dayOfEra := z - era * 146097
  let yearOfEra := (dayOfEra - dayOfEra / 1460 + dayOfEra / 36524 - dayOfEra / 146096) / 365
  let dayOfYear := dayOfEra - (365 * yearOfEra + yearOfEra / 4 - yearOfEra / 100)
  let m := (5 * dayOfYear + 2) / 153
  let day := dayOfYear - (153 * m + 2) / 5 + 1
  let month := if m < 10 then m + 3 else m - 9
  let year := yearOfEra + era * 400 + (if month ≤ 2 then 1 else 0)
  ⟨year, month.toNat, day.toNat⟩

end Date

/-- Seconds since 1970-01-01T00:00:00Z and nanoseconds on top. A leap second belongs to the last
second of its minute, with nanoseconds from 10^9 on. -/
structure Instant where
  second : Int
  nano : Nat
  inRange : -8334601228800 ≤ second ∧ second ≤ 8210266876799
  isProper : nano < 1000000000 ∨ (nano < 2000000000 ∧ second % 60 = 59)
deriving DecidableEq

/-- A signed span of time in nanoseconds. -/
structure Duration where
  nanos : Int
deriving DecidableEq

namespace Duration

/-- Whole milliseconds, toward zero. -/
def milliseconds (d : Duration) : Int := d.nanos.tdiv 1000000

/-- Whole minutes, toward zero. -/
def minutes (d : Duration) : Int := d.nanos.tdiv 60000000000

end Duration

namespace Instant

def of? (second : Int) (nano : Nat) : Option Instant :=
  if h : (-8334601228800 ≤ second ∧ second ≤ 8210266876799) ∧
      (nano < 1000000000 ∨ (nano < 2000000000 ∧ second % 60 = 59)) then
    some ⟨second, nano, h.1, h.2⟩
  else none

/-- The first instant of the calendar. -/
def least : Instant := ⟨-8334601228800, 0, by decide, by decide⟩

instance : LE Instant :=
  ⟨fun a b => a.second < b.second ∨ (a.second = b.second ∧ a.nano ≤ b.nano)⟩

instance : LT Instant :=
  ⟨fun a b => a.second < b.second ∨ (a.second = b.second ∧ a.nano < b.nano)⟩

instance (a b : Instant) : Decidable (a ≤ b) :=
  inferInstanceAs (Decidable (a.second < b.second ∨ (a.second = b.second ∧ a.nano ≤ b.nano)))

instance (a b : Instant) : Decidable (a < b) :=
  inferInstanceAs (Decidable (a.second < b.second ∨ (a.second = b.second ∧ a.nano < b.nano)))

instance : Min Instant := ⟨fun a b => if a ≤ b then a else b⟩

instance : Max Instant := ⟨fun a b => if a ≤ b then b else a⟩

def secondOfDay (t : Instant) : Int := t.second % 86400

def date (t : Instant) : Date := Date.ofDays (t.second / 86400)

/-- From `a` to `b`. A leap second on the way counts when it lies between two times of day. -/
def elapsed (a b : Instant) : Duration :=
  let leap : Int :=
    if a.secondOfDay < b.secondOfDay ∧ 1000000000 ≤ a.nano then 1
    else if b.secondOfDay < a.secondOfDay ∧ 1000000000 ≤ b.nano then -1
    else 0
  ⟨(b.second - a.second + leap) * 1000000000 + ((b.nano : Int) - a.nano)⟩

end Transit.Instant
