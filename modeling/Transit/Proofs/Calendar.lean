import Mathlib.Tactic.IntervalCases
import Transit.Instant

/-! # Days and dates

A number of days has a date of the calendar, and this date has that number of days. Years are taken
to start in March, so that a cycle of 400 years falls into four centuries, these into 25 spans of
four years, and only the last day of a span or of a cycle is a leap day.
-/
namespace Transit.Date

/-- A day in a cycle of 400 years: its century, the span of four years in it, the year in the span,
and the day of this year. -/
structure CycleDay where
  century : Int
  span : Int
  year : Int
  day : Int
  century_bounds : 0 ≤ century ∧ century < 4
  span_bounds : 0 ≤ span ∧ span < 25
  year_bounds : 0 ≤ year ∧ year < 4
  day_bounds : 0 ≤ day ∧ day ≤ 365
  leap : day = 365 → year = 3 ∧ (span = 24 → century = 3)

namespace CycleDay

def number (x : CycleDay) : Int := 36524 * x.century + 1461 * x.span + 365 * x.year + x.day

def yearOfCycle (x : CycleDay) : Int := 100 * x.century + 4 * x.span + x.year

theorem yearOfCycle_bounds (x : CycleDay) : 0 ≤ x.yearOfCycle ∧ x.yearOfCycle < 400 := by
  obtain ⟨q, p, s, r, hq, hp, hs, hr, hleap⟩ := x
  simp only [yearOfCycle]
  omega

/-- Only the last century of a cycle has a last day of its own. -/
theorem century_split {n : Int} (hlow : 0 ≤ n) (hhigh : n < 146097) :
    ∃ century rest : Int, (0 ≤ century ∧ century < 4) ∧ (0 ≤ rest ∧ rest ≤ 36524) ∧
      (rest = 36524 → century = 3) ∧ n = 36524 * century + rest := by
  by_cases h : n = 146096
  · exact ⟨3, 36524, by omega, by omega, by omega, by omega⟩
  · exact ⟨n / 36524, n % 36524, by omega, by omega, by omega, by omega⟩

/-- Only the last year of a span has a leap day. -/
theorem year_split {n : Int} (hlow : 0 ≤ n) (hhigh : n < 1461) :
    ∃ year day : Int, (0 ≤ year ∧ year < 4) ∧ (0 ≤ day ∧ day ≤ 365) ∧ (day = 365 → year = 3) ∧
      n = 365 * year + day := by
  by_cases h : n = 1460
  · exact ⟨3, 365, by omega, by omega, by omega, by omega⟩
  · exact ⟨n / 365, n % 365, by omega, by omega, by omega, by omega⟩

theorem exists_number {n : Int} (hlow : 0 ≤ n) (hhigh : n < 146097) :
    ∃ x : CycleDay, x.number = n := by
  obtain ⟨century, rest, hcentury, hrest, hlast, rfl⟩ := century_split hlow hhigh
  obtain ⟨year, day, hyear, hday, hleap, hsplit⟩ :=
    year_split (n := rest % 1461) (by omega) (by omega)
  have hspan : 0 ≤ rest / 1461 ∧ rest / 1461 < 25 := by omega
  have hleap' : day = 365 → year = 3 ∧ (rest / 1461 = 24 → century = 3) := by omega
  refine ⟨⟨century, rest / 1461, year, day, hcentury, hspan, hyear, hday, hleap'⟩, ?_⟩
  simp only [number]
  omega

/-- The year from the number of the day: its leap days are taken away first. -/
theorem yearOfCycle_eq (x : CycleDay) :
    (x.number - x.number / 1460 + x.number / 36524 - x.number / 146096) / 365 = x.yearOfCycle := by
  obtain ⟨q, p, s, r, hq, hp, hs, hr, hleap⟩ := x
  simp only [number, yearOfCycle]
  generalize hn : 36524 * q + 1461 * p + 365 * s + r = n
  have hcentury : n / 146096 = 0 ∧ n / 36524 = q ∨
      n / 146096 = 1 ∧ n / 36524 = 4 ∧ r = 365 ∧ q = 3 := by omega
  -- 1460 days come to a day less than a span, so late in a cycle one span too many is counted.
  have hspan : n / 1460 = 25 * q + p + if 24 * q + p + 365 * s + r < 1460 then 0 else 1 := by
    split <;> omega
  rw [hspan]
  split <;> omega

theorem day_eq (x : CycleDay) :
    x.number - (365 * x.yearOfCycle + x.yearOfCycle / 4 - x.yearOfCycle / 100) = x.day := by
  obtain ⟨q, p, s, r, hq, hp, hs, hr, hleap⟩ := x
  simp only [number, yearOfCycle]
  omega

/-- The year after this one, which February belongs to, is a leap year. -/
theorem isLeap_of_day (x : CycleDay) (h : x.day = 365) (era : Int) :
    isLeap (400 * era + x.yearOfCycle + 1) = true := by
  obtain ⟨q, p, s, r, hq, hp, hs, hr, hleap⟩ := x
  simp only [isLeap, yearOfCycle, Bool.and_eq_true, Bool.or_eq_true, beq_iff_eq, bne_iff_ne] at *
  omega

end CycleDay

/-- The month of a day of the year, both counted from March. -/
def monthFromMarch (day : Int) : Int := (5 * day + 2) / 153

/-- The date of a month counted from March, in a year that starts then. -/
def ofMarch (year month day : Int) : Date :=
  if month < 10 then ⟨year, (month + 3).toNat, day.toNat⟩
  else ⟨year + 1, (month - 9).toNat, day.toNat⟩

theorem toDays_ofMarch (year : Int) {month day : Int} (hmonth : 0 ≤ month ∧ month < 12)
    (hday : 0 ≤ day) :
    (ofMarch year month day).toDays = year / 400 * 146097 + (year - year / 400 * 400) * 365 +
      (year - year / 400 * 400) / 4 - (year - year / 400 * 400) / 100 +
        ((153 * month + 2) / 5 + day - 1) - 719468 := by
  rw [ofMarch]
  split
  · have hlate : ¬(month + 3).toNat ≤ 2 := by omega
    have hcount : (((month + 3).toNat : Int) + 9) % 12 = month := by omega
    simp only [toDays, if_neg hlate, hcount, Int.toNat_of_nonneg hday]
  · have hearly : (month - 9).toNat ≤ 2 := by omega
    have hcount : (((month - 9).toNat : Int) + 9) % 12 = month := by omega
    simp only [toDays, if_pos hearly, hcount, Int.toNat_of_nonneg hday, Int.add_sub_cancel]

/-- A day of the calendar is a day of some cycle. -/
theorem ofDays_cycle (days : Int) :
    ∃ (era : Int) (x : CycleDay), days + 719468 = 146097 * era + x.number ∧
      ofDays days = ofMarch (400 * era + x.yearOfCycle) (monthFromMarch x.day)
        (x.day - (153 * monthFromMarch x.day + 2) / 5 + 1) := by
  obtain ⟨x, hx⟩ := CycleDay.exists_number (n := (days + 719468) % 146097) (by omega) (by omega)
  have hrest : days + 719468 - (days + 719468) / 146097 * 146097 = x.number := by omega
  have hday := x.day_bounds
  have hmonth : 0 ≤ monthFromMarch x.day ∧ monthFromMarch x.day < 12 := by
    rw [monthFromMarch]
    omega
  refine ⟨(days + 719468) / 146097, x, by omega, ?_⟩
  rw [ofDays, ofMarch]
  simp only [hrest, x.yearOfCycle_eq, x.day_eq, ← monthFromMarch.eq_def]
  by_cases hlate : monthFromMarch x.day < 10
  · have hnot : ¬monthFromMarch x.day + 3 ≤ 2 := by omega
    simp only [if_pos hlate, if_neg hnot]
    congr 1
    omega
  · have hearly : monthFromMarch x.day - 9 ≤ 2 := by omega
    simp only [if_neg hlate, if_pos hearly]
    congr 1
    omega

theorem toDays_ofDays (days : Int) : (ofDays days).toDays = days := by
  obtain ⟨era, x, hdays, hdate⟩ := ofDays_cycle days
  have hday := x.day_bounds
  have hnumber := x.day_eq
  have hcycle := x.yearOfCycle_bounds
  have hera : (400 * era + x.yearOfCycle) / 400 = era := by omega
  have hyear : 400 * era + x.yearOfCycle - era * 400 = x.yearOfCycle := by omega
  rw [hdate, toDays_ofMarch _ (by rw [monthFromMarch]; omega) (by rw [monthFromMarch]; omega), hera,
    hyear]
  omega

/-- A month reaches from its first day to the last one it has in that year. -/
theorem isReal_ofMarch {year month day : Int} (hmonth : 0 ≤ month ∧ month < 12)
    (hyear : -262143 ≤ (ofMarch year month day).year ∧ (ofMarch year month day).year ≤ 262142)
    (hfirst : 1 ≤ day)
    (hlast : (153 * month + 2) / 5 + day ≤ (153 * (month + 1) + 2) / 5)
    (hfebruary : month = 11 → day ≤ if isLeap (year + 1) then 29 else 28) :
    (ofMarch year month day).isReal = true := by
  obtain ⟨hlow, hhigh⟩ := hmonth
  simp only [ofMarch] at *
  interval_cases month
  all_goals
    simp [isReal, monthLength] at *
    omega

theorem year_ofMarch (year month day : Int) :
    (ofMarch year month day).year = year + if month < 10 then 0 else 1 := by
  rw [ofMarch]
  split
  · exact (Int.add_zero year).symm
  · rfl

/-- The days from the first to the last year of the calendar. -/
def InCalendar (days : Int) : Prop := -96465292 ≤ days ∧ days ≤ 95026236

theorem isReal_ofDays {days : Int} (h : InCalendar days) : (ofDays days).isReal = true := by
  obtain ⟨era, x, hdays, hdate⟩ := ofDays_cycle days
  obtain ⟨hfirst, hlast⟩ := h
  have hday := x.day_bounds
  have hnumber := x.day_eq
  have hcycle := x.yearOfCycle_bounds
  -- The calendar begins and ends within a year from March on, in the eras -656 and 655.
  have hbegin : -656 ≤ era ∧ (era = -656 → 93808 ≤ x.number) := by omega
  have hend : era ≤ 655 ∧ (era = 655 → x.number ≤ 52169) := by omega
  have hearly : x.number ≥ 93808 → x.yearOfCycle > 256 ∨ x.yearOfCycle = 256 ∧ 306 ≤ x.day := by
    omega
  have hlate : x.number ≤ 52169 → x.yearOfCycle < 142 ∨ x.yearOfCycle = 142 ∧ x.day ≤ 305 := by
    omega
  rw [hdate]
  apply isReal_ofMarch
  · rw [monthFromMarch]
    omega
  · rw [year_ofMarch, monthFromMarch]
    split <;> omega
  · rw [monthFromMarch]
    omega
  · rw [monthFromMarch]
    omega
  · intro hmonth
    rw [hmonth]
    by_cases hleap : x.day = 365
    · rw [if_pos (x.isLeap_of_day hleap era), hleap]
      decide
    · split <;> omega

end Transit.Date
