import Mathlib.Data.List.TakeDrop
import Transit.Instant.Text
import Transit.Proofs.Calendar
import Transit.Proofs.Text.Digits
import Transit.Proofs.Text.Search

/-! # Instants read back

Each part of a written instant is read back before whatever follows it, as long as no digit does:
the year with its sign, the parts of date and time with their two digits, the fraction, and second
60 as a leap second.
-/
namespace Transit

namespace Text

theorem isDigit_of_mem_padded {count n : Nat} {c : Char} (h : c ∈ paddedDigits count n) :
    isDigit c = true := by
  induction count generalizing n with
  | zero => cases h
  | succ count ih =>
    rcases List.mem_append.mp h with h | h
    · exact ih h
    · obtain rfl := List.mem_singleton.mp h
      exact isDigit_digitChar (Nat.mod_lt n (by omega))

@[simp] theorem length_paddedDigits (count n : Nat) : (paddedDigits count n).length = count := by
  induction count generalizing n with
  | zero => rfl
  | succ count ih => rw [paddedDigits, List.length_append, ih, List.length_singleton]

theorem decimalValue_concat (ds : List Char) {d : Nat} (h : d < 10) :
    decimalValue (ds ++ [digitChar d]) = decimalValue ds * 10 + d := by
  rw [decimalValue, List.foldl_append, ← decimalValue, List.foldl_cons, List.foldl_nil,
    digitValue_digitChar h]

theorem decimalValue_padded {count n : Nat} (h : n < 10 ^ count) :
    decimalValue (paddedDigits count n) = n := by
  induction count generalizing n with
  | zero =>
    obtain rfl : n = 0 := by simpa using h
    rfl
  | succ count ih =>
    rw [Nat.pow_succ] at h
    rw [paddedDigits, decimalValue_concat _ (Nat.mod_lt n (by omega)), ih (by omega)]
    omega

theorem decimalValue_zeros (count : Nat) (ds : List Char) :
    decimalValue (List.replicate count '0' ++ ds) = decimalValue ds := by
  induction count with
  | zero => rfl
  | succ count ih => exact ih

/-- No run of digits goes on here. -/
def endsDigits : List Char → Bool
  | [] => true
  | c :: _ => !isDigit c

theorem takeWhile_digits {ds rest : List Char} (hds : ∀ c ∈ ds, isDigit c = true)
    (hrest : endsDigits rest = true) : (ds ++ rest).takeWhile isDigit = ds := by
  rw [List.takeWhile_append_of_pos hds]
  cases rest with
  | nil => exact List.append_nil ds
  | cons c rest =>
    rw [endsDigits, Bool.not_eq_true'] at hrest
    rw [List.takeWhile_cons_of_neg (by simp [hrest]), List.append_nil]

theorem endsDigits_take {rest : List Char} (h : endsDigits rest = true) (n : Nat) :
    endsDigits (rest.take n) = true := by
  cases rest with
  | nil => rw [List.take_nil, endsDigits]
  | cons c rest =>
    cases n with
    | zero => rfl
    | succ n => exact h

end Text

namespace Instant

open Text (digits paddedDigits decimalValue endsDigits isDigit)

variable {rest : List Char}

theorem number_digits (most : Nat) {ds : List Char} (hds : ∀ c ∈ ds, isDigit c = true)
    (hne : ds ≠ []) (hlength : ds.length ≤ most) (hrest : endsDigits rest = true) :
    number? most (ds ++ rest) = some (decimalValue ds, rest) := by
  have htake : (ds ++ rest).take most = ds ++ rest.take (most - ds.length) := by
    rw [List.take_append, List.take_of_length_le hlength]
  have hempty : ds.isEmpty = false := by rwa [List.isEmpty_eq_false_iff]
  rw [number?, htake, Text.takeWhile_digits hds (Text.endsDigits_take hrest _)]
  simp only [hempty, List.drop_left, Bool.false_eq_true, if_false]

/-- What begins with a digit has no blank in front. -/
theorem stripStart_digits {ds : List Char} (hds : ∀ c ∈ ds, isDigit c = true) (hne : ds ≠ []) :
    Text.stripStart (ds ++ rest) = ds ++ rest := by
  obtain ⟨c, cs, rfl⟩ := List.exists_cons_of_ne_nil hne
  exact Text.stripStart_cons (Text.isBlank_of_isDigit (hds c List.mem_cons_self)) _

theorem padded_ne_nil (count n : Nat) : paddedDigits (count + 1) n ≠ [] := by
  rw [paddedDigits]
  exact List.append_ne_nil_of_right_ne_nil _ (List.cons_ne_nil _ _)

theorem part_padded {n : Nat} (h : n < 100) (hrest : endsDigits rest = true) :
    part? (paddedDigits 2 n ++ rest) = some (n, rest) := by
  have hds : ∀ c ∈ paddedDigits 2 n, isDigit c = true := fun c => Text.isDigit_of_mem_padded
  rw [part?, stripStart_digits hds (padded_ne_nil 1 n),
    number_digits 2 hds (padded_ne_nil 1 n) (by rw [Text.length_paddedDigits]) hrest,
    Text.decimalValue_padded h]

theorem behind_mark {c : Char} (h : Text.isBlank c = false) :
    behind? c (c :: rest) = some rest := by
  rw [behind?, Text.stripStart_cons h]
  simp

theorem year_unsigned {c : Char} {cs : List Char} (hc : isDigit c = true) :
    year? (c :: cs) = (number? 4 (c :: cs)).map fun (n, r) => ((n : Int), r) := by
  rw [year?.eq_def]
  split
  · rename_i heq
    obtain rfl := (List.cons.inj heq).1
    cases hc
  · rename_i heq
    obtain rfl := (List.cons.inj heq).1
    cases hc
  · rfl

/-- Zeros before a number make no difference to it. -/
theorem number_zeros (zeros n most : Nat) (hmost : zeros + (digits n).length ≤ most)
    (hrest : endsDigits rest = true) :
    number? most (List.replicate zeros '0' ++ digits n ++ rest) = some (n, rest) := by
  have hds : ∀ c ∈ List.replicate zeros '0' ++ digits n, isDigit c = true := by
    intro c hc
    rcases List.mem_append.mp hc with hc | hc
    · rw [List.eq_of_mem_replicate hc]
      rfl
    · exact Text.isDigit_of_mem_digits hc
  have hne : List.replicate zeros '0' ++ digits n ≠ [] :=
    List.append_ne_nil_of_right_ne_nil _ (Text.digits_ne_nil n)
  have hread := number_digits most hds hne (by simpa using hmost) hrest
  rwa [Text.decimalValue_zeros, Text.decimalValue_digits] at hread

/-- A year of four digits has no sign, any other has one. -/
theorem year_yearText (year : Int) (hrest : endsDigits rest = true) :
    year? (yearText year ++ rest) = some (year, rest) := by
  rw [yearText]
  split
  · rename_i h
    have hds : ∀ c ∈ paddedDigits 4 year.toNat, isDigit c = true :=
      fun c => Text.isDigit_of_mem_padded
    have hread := number_digits 4 hds (padded_ne_nil 3 _)
      (by rw [Text.length_paddedDigits]) hrest
    rw [Text.decimalValue_padded (by omega)] at hread
    obtain ⟨c, cs, hcs⟩ := List.exists_cons_of_ne_nil (padded_ne_nil 3 year.toNat)
    rw [hcs, List.cons_append] at hread ⊢
    rw [year_unsigned (hds c (hcs ▸ List.mem_cons_self)), hread, Option.map_some]
    simp only [Int.toNat_of_nonneg h.1]
  · have hread := fun most hmost =>
      number_zeros (4 - (digits year.natAbs).length) year.natAbs most hmost hrest
    by_cases hneg : year < 0
    · simp only [if_pos hneg, List.cons_append, year?]
      rw [hread _ (by simp), Option.map_some]
      congr 2
      omega
    · simp only [if_neg hneg, List.cons_append, year?]
      rw [hread _ (by simp), Option.map_some]
      congr 2
      omega

theorem stripStart_yearText (year : Int) : Text.stripStart (yearText year ++ rest) =
    yearText year ++ rest := by
  rw [yearText]
  split
  · exact stripStart_digits (fun c => Text.isDigit_of_mem_padded) (padded_ne_nil 3 _)
  · dsimp only
    split <;> exact Text.stripStart_cons rfl _

theorem date_dateText {d : Date} (h : d.isReal = true) (hrest : endsDigits rest = true) :
    date? (dateText d ++ rest) = some (d, rest) := by
  have hparts := h
  simp only [Date.isReal, Bool.and_eq_true, decide_eq_true_eq] at hparts
  obtain ⟨⟨⟨-, hmonth⟩, -⟩, hday⟩ := hparts
  have hlength : Date.monthLength d.year d.month ≤ 31 := by
    rw [Date.monthLength]
    split <;> (try split) <;> omega
  have hdash : ∀ cs, endsDigits ('-' :: cs) = true := fun cs => rfl
  rw [date?, dateText]
  simp only [List.append_assoc, List.cons_append, stripStart_yearText]
  simp [year_yearText _ (hdash _), behind_mark (c := '-') rfl,
    part_padded (n := d.month) (by omega) (hdash _), part_padded (n := d.day) (by omega) hrest, h]

/-- What may follow a fraction. -/
def endsFraction : List Char → Bool
  | [] => true
  | c :: _ => !isDigit c && c != '.'

theorem endsDigits_of_fraction (h : endsFraction rest = true) : endsDigits rest = true := by
  cases rest with
  | nil => rfl
  | cons c rest =>
    rw [endsFraction, Bool.and_eq_true] at h
    exact h.1

/-- Digits behind the point, from three to nine of them, count down to nanoseconds. -/
theorem fraction_padded {count n : Nat} (hcount : 0 < count) (hnine : count ≤ 9)
    (h : n < 10 ^ count) (hrest : endsDigits rest = true) :
    fraction? ('.' :: (paddedDigits count n ++ rest)) = some (n * tenTo (9 - count), rest) := by
  have hds : ∀ c ∈ paddedDigits count n, isDigit c = true := fun c => Text.isDigit_of_mem_padded
  have htake : (paddedDigits count n).take 9 = paddedDigits count n :=
    List.take_of_length_le (by rwa [Text.length_paddedDigits])
  have hempty : (paddedDigits count n).isEmpty = false := by
    rw [List.isEmpty_eq_false_iff_exists_mem, ← List.length_pos_iff_exists_mem,
      Text.length_paddedDigits]
    exact hcount
  have hdrop : (paddedDigits count n ++ rest).drop count = rest :=
    List.drop_left' (Text.length_paddedDigits count n)
  simp only [fraction?, Text.takeWhile_digits hds hrest, htake, hempty, hdrop,
    Text.decimalValue_padded h, Text.length_paddedDigits, Bool.false_eq_true, if_false]

theorem fraction_fractionText {nano : Nat} (h : nano < 1000000000)
    (hrest : endsFraction rest = true) :
    fraction? (fractionText nano ++ rest) = some (nano, rest) := by
  have hdigits := endsDigits_of_fraction hrest
  rw [fractionText]
  split
  · rename_i hzero
    rw [List.nil_append, fraction?.eq_def, hzero]
    split
    · cases hrest
    · rfl
  split
  · rename_i hmillis
    rw [List.cons_append, fraction_padded (by omega) (by omega) (by omega) hdigits]
    exact congrArg (fun n => some (n, rest)) (Nat.div_mul_cancel (Nat.dvd_of_mod_eq_zero hmillis))
  split
  · rename_i hmicros
    rw [List.cons_append, fraction_padded (by omega) (by omega) (by omega) hdigits]
    exact congrArg (fun n => some (n, rest)) (Nat.div_mul_cancel (Nat.dvd_of_mod_eq_zero hmicros))
  · rw [List.cons_append, fraction_padded (by omega) (by omega) (by omega) hdigits]
    exact congrArg (fun n => some (n, rest)) (Nat.mul_one nano)

theorem endsDigits_fractionText {nano : Nat} (hrest : endsFraction rest = true) :
    endsDigits (fractionText nano ++ rest) = true := by
  rw [fractionText]
  split
  · exact endsDigits_of_fraction hrest
  · split
    · rfl
    · split <;> rfl

/-- Hour, minute, second and fraction; second 60 is read as second 59 with a second on top. -/
theorem time_read (second nano extra : Nat) (hsecond : second < 86400) (hnano : nano < 1000000000)
    (hextra : extra = 0 ∨ extra = 1 ∧ second % 60 = 59) (hrest : endsFraction rest = true) :
    time? (paddedDigits 2 (second / 3600) ++ ':' :: (paddedDigits 2 (second / 60 % 60) ++ ':' ::
        (paddedDigits 2 (second % 60 + extra) ++ (fractionText nano ++ rest)))) =
      some ((second, nano + extra * 1000000000), rest) := by
  have hcolon : ∀ cs, endsDigits (':' :: cs) = true := fun cs => rfl
  have hrange : second / 3600 ≤ 23 ∧ second / 60 % 60 ≤ 59 ∧ second % 60 + extra ≤ 60 := by omega
  have hvalue : (if second % 60 + extra = 60 then
        some ((second / 3600 * 3600 + second / 60 % 60 * 60 + 59, nano + 1000000000), rest)
      else some
        ((second / 3600 * 3600 + second / 60 % 60 * 60 + (second % 60 + extra), nano), rest)) =
      some ((second, nano + extra * 1000000000), rest) := by
    rcases hextra with rfl | ⟨rfl, hlast⟩
    · rw [if_neg (by omega)]
      congr 3
      omega
    · rw [if_pos (by omega)]
      congr 3
      omega
  rw [time?]
  simp [part_padded (n := second / 3600) (by omega) (hcolon _), behind_mark (c := ':') rfl,
    part_padded (n := second / 60 % 60) (by omega) (hcolon _),
    part_padded (n := second % 60 + extra) (by omega) (endsDigits_fractionText hrest),
    fraction_fractionText hnano hrest, hrange, hvalue]

/-- A second of its own for a leap second, and the nanoseconds beside it. -/
theorem localText_eq (t : Instant) :
    ∃ extra nano : Nat, (extra = 0 ∨ extra = 1 ∧ t.second % 60 = 59) ∧ nano < 1000000000 ∧
      nano + extra * 1000000000 = t.nano ∧
      t.localText = dateText t.date ++ 'T' ::
        (paddedDigits 2 (t.secondOfDay.toNat / 3600) ++ ':' ::
          (paddedDigits 2 (t.secondOfDay.toNat / 60 % 60) ++ ':' ::
            (paddedDigits 2 (t.secondOfDay.toNat % 60 + extra) ++ fractionText nano))) := by
  have hproper := t.isProper
  by_cases hleap : 1000000000 ≤ t.nano
  · refine ⟨1, t.nano - 1000000000, by omega, by omega, by omega, ?_⟩
    simp [localText, clockText, hleap]
  · refine ⟨0, t.nano, by omega, by omega, by omega, ?_⟩
    simp [localText, clockText, hleap]

theorem of_parts (t : Instant) : of? t.second t.nano = some t := by
  rw [of?, dif_pos ⟨t.inRange, t.isProper⟩]

/-- An instant is read back from what is written of it, whatever stands there for its zone. -/
theorem ofChars_localText (t : Instant) {zone : List Char} (hend : endsFraction zone = true)
    (hmark : Text.stripStart zone = zone) (hutc : offset? zone = some (0, [])) :
    ofChars? (t.localText ++ zone) = some t := by
  obtain ⟨extra, nano, hextra, hnano, hsum, hlocal⟩ := t.localText_eq
  have hrange := t.inRange
  have hdate : t.date.isReal = true := by
    apply Date.isReal_ofDays
    constructor <;> omega
  have hday : t.date.toDays = t.second / 86400 := Date.toDays_ofDays _
  have hclock : t.secondOfDay = t.second % 86400 := rfl
  have htime := time_read t.secondOfDay.toNat nano extra (by omega) hnano (by omega) hend
  have hsecond : t.date.toDays * 86400 + max t.secondOfDay 0 = t.second := by omega
  have hletter : ∀ cs, endsDigits ('T' :: cs) = true := fun cs => rfl
  rw [hlocal, ofChars?]
  simp only [List.append_assoc, List.cons_append]
  simp only [date_dateText hdate (hletter _), separator?, Option.bind_eq_bind, Option.bind_some,
    htime, hmark, hutc, List.all_nil, ↓reduceIte, Int.ofNat_toNat, Int.sub_zero, hsecond, hsum,
    of_parts]

/-- Every instant is read back from its text. -/
theorem ofText_text (t : Instant) : ofText? t.text = some t := by
  rw [ofText?, text, String.toList_ofList]
  exact t.ofChars_localText rfl rfl rfl

/-- And from the text that tells its zone by digits, as requests do. -/
theorem ofText_offsetText (t : Instant) : ofText? t.offsetText = some t := by
  rw [ofText?, offsetText, String.toList_ofList]
  exact t.ofChars_localText rfl rfl rfl

end Instant

end Transit
