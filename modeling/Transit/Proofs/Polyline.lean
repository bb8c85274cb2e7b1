import Mathlib.Algebra.Order.Ring.Int
import Mathlib.Data.List.Basic
import Mathlib.Data.List.TakeWhile
import Transit.Polyline
import Transit.Proofs.Text.Utf8

/-! # Polylines read back

A polyline tells the places of a track by their differences. What is written is read as the places
that it was written for, in whole units of the format, up to the first one out of range; and what
has been read once is in such units already, so that it stays as it is.
-/
namespace Transit

/-- Latitude and longitude as numbers. -/
def Point.coordinates (p : Point) : Int × Int := (p.lat.toInt, p.lon.toInt)

theorem Point.coordinates_injective : Function.Injective Point.coordinates := by
  intro p q h
  obtain ⟨hlat, hlon⟩ := Prod.mk.inj h
  cases p
  cases q
  exact congr (congrArg Point.mk (Int32.toInt_inj.mp hlat)) (Int32.toInt_inj.mp hlon)

namespace Polyline

variable {points : List Point} {bytes rest : List UInt8} {v : Int}

/-! ### One value -/

theorem unfold_fold (v : Int) : unfold (fold v) = v := by
  rw [fold]
  split
  · rw [unfold, if_pos (by omega)]
    omega
  · rw [unfold, if_neg (by omega)]
    omega

theorem group_lt {n g : Nat} (h : g ∈ groups n) : g < 64 := by
  fun_induction groups n with
  | case1 n hlast =>
    obtain rfl := List.mem_singleton.mp h
    omega
  | case2 n hmore ih =>
    rcases List.mem_cons.mp h with rfl | hrest
    · omega
    · exact ih hrest

theorem toNat_groupByte {g : Nat} (h : g < 64) : (groupByte g).toNat = g + 63 := by
  simp only [groupByte, UInt8.toNat_add, UInt8.toNat_ofNat', UInt8.reduceToNat]
  omega

/-- A byte that a group can be written as. -/
def IsGroupByte (b : UInt8) : Prop := 63 ≤ b.toNat ∧ b.toNat ≤ 126

instance : DecidablePred IsGroupByte := fun _ => inferInstanceAs (Decidable (_ ∧ _))

theorem isGroupByte_iff {b : UInt8} : IsGroupByte b ↔ ¬b < 63 ∧ ¬126 < b := by
  simp [IsGroupByte, UInt8.lt_iff_toNat_lt]

theorem isGroupByte_groupByte {g : Nat} (h : g < 64) : IsGroupByte (groupByte g) := by
  rw [IsGroupByte, toNat_groupByte h]
  omega

theorem IsGroupByte.exists_group {b : UInt8} (h : IsGroupByte b) : ∃ g < 64, b = groupByte g := by
  obtain ⟨hlow, hhigh⟩ := h
  have hg : b.toNat - 63 < 64 := by omega
  refine ⟨b.toNat - 63, hg, ?_⟩
  rw [← UInt8.toNat_inj, toNat_groupByte hg]
  omega

theorem groupByte_sub (g : Nat) : groupByte g - 63 = UInt8.ofNat g := by
  simp [groupByte]

theorem readGroups_cons {shift g : Nat} (hshift : shift ≤ 30) (hg : g < 64) (low : Nat)
    (rest : List UInt8) :
    readGroups shift low (groupByte g :: rest) =
      if g < 32 then some (unfold (low + g % 32 * twoTo shift), rest)
      else readGroups (shift + 5) (low + g % 32 * twoTo shift) rest := by
  obtain ⟨hlow, hhigh⟩ := isGroupByte_iff.mp (isGroupByte_groupByte hg)
  have hgroup : (UInt8.ofNat g).toNat = g := by
    simp
    omega
  rw [readGroups]
  simp only [hlow, hhigh, Nat.not_lt.mpr hshift, decide_false, Bool.or_self, Bool.false_eq_true,
    if_false, groupByte_sub, hgroup]

/-- Reading ends at a byte that no group is written as, and behind seven groups. -/
theorem readGroups_eq_none {shift : Nat} {b : UInt8} (h : ¬(IsGroupByte b ∧ shift ≤ 30)) (low : Nat)
    (rest : List UInt8) : readGroups shift low (b :: rest) = none := by
  have hstop : b < 63 || 126 < b || 30 < shift := by
    rw [isGroupByte_iff, ← Nat.not_lt] at h
    simp only [Bool.or_eq_true, decide_eq_true_eq]
    tauto
  rw [readGroups, if_pos hstop]

/-- Of the 35 bits there is room for, each group takes five. -/
theorem two_pow_left {k : Nat} (hk : k < 7) :
    2 ^ (35 - 5 * k) = 2 ^ (35 - 5 * (k + 1)) * 32 := by
  rw [show 35 - 5 * k = 35 - 5 * (k + 1) + 5 by omega, Nat.pow_add]

/-- The groups of a number of at most 35 bits are put together again, from wherever its lowest ones
begin. -/
theorem readGroups_groups {n k : Nat} (hk : k ≤ 6) (hn : n < 2 ^ (35 - 5 * k)) (low : Nat)
    (rest : List UInt8) :
    readGroups (5 * k) low ((groups n).map groupByte ++ rest) =
      some (unfold (low + n * twoTo (5 * k)), rest) := by
  fun_induction groups n generalizing k low with
  | case1 n hlast =>
    rw [List.map_singleton, List.singleton_append, readGroups_cons (by omega) (by omega),
      if_pos hlast, Nat.mod_eq_of_lt hlast]
  | case2 n hmore ih =>
    -- A number with more than one group has more than five bits left to read.
    have hk6 : k ≠ 6 := by
      rintro rfl
      simp at hn
      omega
    have hbits : n / 32 < 2 ^ (35 - 5 * (k + 1)) := by
      rw [two_pow_left (by omega)] at hn
      omega
    have hshift : twoTo (5 * (k + 1)) = 32 * twoTo (5 * k) := by
      rw [twoTo, twoTo, Nat.mul_add, Nat.pow_eq, Nat.pow_eq, Nat.pow_add, Nat.mul_comm]
    have hsum : low + n % 32 * twoTo (5 * k) + n / 32 * twoTo (5 * (k + 1)) =
        low + n * twoTo (5 * k) := by
      rw [hshift, ← Nat.mul_assoc, Nat.add_assoc, ← Nat.add_mul, Nat.mod_add_div' n 32]
    rw [List.map_cons, List.cons_append, readGroups_cons (by omega) (by omega),
      if_neg (by omega), Nat.add_mod_left, Nat.mod_mod, show 5 * k + 5 = 5 * (k + 1) by omega,
      ih (by omega) hbits, hsum]

/-- A difference that the format has room for. -/
def HasRoom (v : Int) : Prop := -2 ^ 34 ≤ v ∧ v < 2 ^ 34

instance : DecidablePred HasRoom := fun _ => inferInstanceAs (Decidable (_ ∧ _))

/-- The sign takes one of the 35 bits. -/
theorem fold_lt_iff : fold v < 2 ^ 35 ↔ HasRoom v := by
  rw [HasRoom, fold]
  split <;> omega

theorem readValue_writeValue (h : HasRoom v) (rest : List UInt8) :
    readValue (writeValue v ++ rest) = some (v, rest) := by
  have hfold : fold v < 2 ^ (35 - 5 * 0) := fold_lt_iff.mpr h
  have hread := readGroups_groups (k := 0) (by omega) hfold 0 rest
  rw [readValue, writeValue, hread, twoTo]
  simp [unfold_fold]

theorem values_of_read (h : readValue bytes = some (v, rest)) : values bytes = v :: values rest := by
  rw [values]
  split
  · rename_i hread
    rw [h] at hread
    cases hread
    rfl
  · rename_i hread
    rw [h] at hread
    cases hread

theorem values_of_unread (h : readValue bytes = none) : values bytes = [] := by
  rw [values]
  split
  · rename_i hread
    rw [h] at hread
    cases hread
  · rfl

theorem values_writeValue (h : HasRoom v) (rest : List UInt8) :
    values (writeValue v ++ rest) = v :: values rest :=
  values_of_read (readValue_writeValue h rest)

/-! ### The places of a track -/

/-- Both numbers fit 32 bits. -/
def InRange (c : Int × Int) : Prop :=
  (-2 ^ 31 ≤ c.1 ∧ c.1 < 2 ^ 31) ∧ (-2 ^ 31 ≤ c.2 ∧ c.2 < 2 ^ 31)

instance : DecidablePred InRange := fun _ => inferInstanceAs (Decidable (_ ∧ _))

theorem inRange_coordinates (p : Point) : InRange p.coordinates :=
  ⟨⟨p.lat.le_toInt, p.lat.toInt_lt⟩, ⟨p.lon.le_toInt, p.lon.toInt_lt⟩⟩

/-- The places, in millionths of a degree, that are reached by pairs of differences, however far
they are. -/
def course (lat lon : Int) : List Int → List (Int × Int)
  | north :: east :: rest =>
    ((lat + north) * 10, (lon + east) * 10) :: course (lat + north) (lon + east) rest
  | _ => []

theorem toInt_millionths? {x : Int32} (h : millionths? v = some x) : x.toInt = v * 10 := by
  have htwo : (twoTo 31 : Int) = 2 ^ 31 := rfl
  rw [millionths?, htwo] at h
  split at h
  · cases h
    exact Int32.toInt_ofInt_of_le (by omega) (by omega)
  · cases h

theorem millionths?_of_fits (h : -2 ^ 31 ≤ v * 10 ∧ v * 10 < 2 ^ 31) :
    ∃ x, millionths? v = some x := by
  have htwo : (twoTo 31 : Int) = 2 ^ 31 := rfl
  rw [millionths?, htwo]
  exact ⟨_, if_pos h⟩

/-- A track goes as far as its course stays in range. -/
theorem coordinates_track (lat lon : Int) (vs : List Int) :
    (track lat lon vs).map Point.coordinates =
      (course lat lon vs).takeWhile fun c => decide (InRange c) := by
  fun_induction track lat lon vs with
  | case1 lat lon north east rest lat' lon' y x hy hx ih =>
    have hplace : Point.coordinates ⟨y, x⟩ = (lat' * 10, lon' * 10) := by
      rw [Point.coordinates, toInt_millionths? hy, toInt_millionths? hx]
    have hin : InRange (lat' * 10, lon' * 10) := hplace ▸ inRange_coordinates ⟨y, x⟩
    rw [List.map_cons, ih, hplace, course, List.takeWhile_cons_of_pos (by simpa using hin)]
  | case2 lat lon north east rest lat' lon' hnone =>
    have hout : ¬InRange (lat' * 10, lon' * 10) := by
      rintro ⟨hlat, hlon⟩
      obtain ⟨y, hy⟩ := millionths?_of_fits hlat
      obtain ⟨x, hx⟩ := millionths?_of_fits hlon
      exact hnone y x hy hx
    rw [course, List.takeWhile_cons_of_neg (by simpa using hout)]
    rfl
  | case3 vs lat lon hshort =>
    match vs with
    | [] => rfl
    | [v] => rfl
    | north :: east :: rest => exact (hshort north east rest rfl).elim

/-! ### Rounding -/

/-- The multiple of ten nearest to a number, a half going away from zero. -/
def nearestTen (v : Int) : Int := v.sign * ((v.natAbs + 5) / 10 * 10 : Nat)

structure IsNearestTen (v t : Int) : Prop where
  multiple : 10 ∣ t
  near : (v - t).natAbs ≤ 5
  away : (v - t).natAbs = 5 → v.natAbs < t.natAbs

theorem nearestTen_of_nonneg (h : 0 ≤ v) : nearestTen v = (v + 5) / 10 * 10 := by
  obtain ⟨n, rfl⟩ := Int.eq_ofNat_of_zero_le h
  rcases Nat.eq_zero_or_pos n with rfl | hn
  · rfl
  · rw [nearestTen, Int.sign_natCast_of_ne_zero (by omega)]
    omega

theorem nearestTen_neg (v : Int) : nearestTen (-v) = -nearestTen v := by
  rw [nearestTen, nearestTen, Int.sign_neg, Int.natAbs_neg, Int.neg_mul]

theorem rounded_mul_ten (x : Int32) : rounded x * 10 = nearestTen x.toInt := by
  rw [rounded]
  split
  · rename_i hpos
    rw [nearestTen_of_nonneg hpos, Int.tdiv_eq_ediv_of_nonneg (by omega)]
  · rename_i hneg
    have hflip : x.toInt - 5 = -(-x.toInt + 5) := by omega
    rw [← Int.neg_neg x.toInt, nearestTen_neg, nearestTen_of_nonneg (by omega), Int.neg_neg, hflip,
      Int.neg_tdiv, Int.tdiv_eq_ediv_of_nonneg (by omega), Int.neg_mul]

theorem isNearestTen_nearestTen (v : Int) : IsNearestTen v (nearestTen v) := by
  rcases Int.le_total 0 v with hpos | hneg
  · rw [nearestTen_of_nonneg hpos]
    constructor <;> omega
  · rw [← Int.neg_neg v, nearestTen_neg, nearestTen_of_nonneg (by omega)]
    constructor <;> omega

theorem nearestTen_of_dvd (h : 10 ∣ v) : nearestTen v = v := by
  obtain ⟨hmultiple, hnear, haway⟩ := isNearestTen_nearestTen v
  omega

/-- The place that is written for a point. -/
def place (p : Point) : Int × Int := (nearestTen p.lat.toInt, nearestTen p.lon.toInt)

/-! ### Whole polylines -/

/-- The differences of rounded coordinates need no more than 30 bits. -/
theorem hasRoom_rounded_sub (x y : Int32) : HasRoom (rounded x - rounded y) := by
  have hx := (isNearestTen_nearestTen x.toInt).near
  have hy := (isNearestTen_nearestTen y.toInt).near
  rw [← rounded_mul_ten] at hx hy
  have hxlo := x.le_toInt
  have hxhi := x.toInt_lt
  have hylo := y.le_toInt
  have hyhi := y.toInt_lt
  rw [HasRoom]
  omega

theorem values_nil : values [] = [] := values_of_unread rfl

/-- The course that is written leads through the places of the points, from wherever the last point
before them was. -/
theorem course_encodeFrom (lat lon : Int32) (points : List Point) :
    course (rounded lat) (rounded lon) (values (encodeFrom (rounded lat) (rounded lon) points)) =
      points.map place := by
  induction points generalizing lat lon with
  | nil =>
    rw [encodeFrom, values_nil]
    rfl
  | cons p points ih =>
    have hlat : rounded lat + (rounded p.lat - rounded lat) = rounded p.lat := by omega
    have hlon : rounded lon + (rounded p.lon - rounded lon) = rounded p.lon := by omega
    rw [encodeFrom, List.append_assoc, values_writeValue (hasRoom_rounded_sub _ _),
      values_writeValue (hasRoom_rounded_sub _ _), course, hlat, hlon, ih, rounded_mul_ten,
      rounded_mul_ten, List.map_cons, place]

theorem byte_mem_writeValue {b : UInt8} (h : b ∈ writeValue v) : 63 ≤ b.toNat ∧ b.toNat ≤ 126 := by
  obtain ⟨g, hg, rfl⟩ := List.mem_map.mp h
  have hlt := group_lt hg
  rw [toNat_groupByte hlt]
  omega

theorem byte_mem_encodeFrom {lat lon : Int} {b : UInt8} (h : b ∈ encodeFrom lat lon points) :
    63 ≤ b.toNat ∧ b.toNat ≤ 126 := by
  induction points generalizing lat lon with
  | nil => cases h
  | cons p points ih =>
    rw [encodeFrom, List.append_assoc] at h
    rcases List.mem_append.mp h with hlat | h
    · exact byte_mem_writeValue hlat
    · rcases List.mem_append.mp h with hlon | hrest
      · exact byte_mem_writeValue hlon
      · exact ih hrest

theorem toUTF8_encode (points : List Point) :
    (encode points).toUTF8.toList = encodeBytes points := by
  apply Text.Utf8.toUTF8_ofList_ascii
  intro b hb
  have hrange := byte_mem_encodeFrom hb
  omega

theorem coordinates_decode (s : String) :
    (decode s).map Point.coordinates =
      (course 0 0 (values s.toUTF8.toList)).takeWhile fun c => decide (InRange c) :=
  coordinates_track 0 0 _

theorem coordinates_decode_encode (points : List Point) :
    (decode (encode points)).map Point.coordinates =
      (points.map place).takeWhile fun c => decide (InRange c) := by
  rw [coordinates_decode, toUTF8_encode]
  exact congrArg _ (course_encodeFrom 0 0 points)

theorem dvd_of_mem_course {lat lon : Int} {vs : List Int} {c : Int × Int}
    (h : c ∈ course lat lon vs) : 10 ∣ c.1 ∧ 10 ∣ c.2 := by
  fun_induction course lat lon vs with
  | case1 lat lon north east rest ih =>
    rcases List.mem_cons.mp h with rfl | hrest
    · exact ⟨Int.dvd_mul_left _ _, Int.dvd_mul_left _ _⟩
    · exact ih hrest
  | case2 => cases h

/-- What is read is in whole units of the format. -/
theorem place_of_mem_decode {s : String} {p : Point} (h : p ∈ decode s) :
    place p = p.coordinates := by
  have hmem : p.coordinates ∈ (decode s).map Point.coordinates := List.mem_map_of_mem h
  rw [coordinates_decode] at hmem
  obtain ⟨hlat, hlon⟩ := dvd_of_mem_course ((List.takeWhile_sublist _).mem hmem)
  exact Prod.ext (nearestTen_of_dvd hlat) (nearestTen_of_dvd hlon)

theorem decode_encode_decode (s : String) : decode (encode (decode s)) = decode s := by
  have hplaces : (decode s).map place = (decode s).map Point.coordinates :=
    List.map_congr_left fun p hp => place_of_mem_decode hp
  have hin : ∀ c ∈ (decode s).map Point.coordinates, decide (InRange c) = true := by
    intro c hc
    obtain ⟨p, -, rfl⟩ := List.mem_map.mp hc
    exact decide_eq_true (inRange_coordinates p)
  apply List.map_injective_iff.mpr Point.coordinates_injective
  rw [coordinates_decode_encode, hplaces, List.takeWhile_eq_self_iff.mpr hin]

/-- A polyline is read back as the nearest places that the format can tell, up to the first one that
is out of range, and it is printable whatever it was written for. What was read from any text at all
can be written again and is read as the same points. -/
theorem decode_undoes_encode (points : List Point) (s : String) :
    (decode (encode points)).map Point.coordinates =
        (points.map place).takeWhile (fun c => decide (InRange c)) ∧
      (∀ v, IsNearestTen v (nearestTen v)) ∧
      (∀ b ∈ (encode points).toUTF8.toList, 63 ≤ b.toNat ∧ b.toNat ≤ 126) ∧
      decode (encode (decode s)) = decode s := by
  refine ⟨coordinates_decode_encode points, isNearestTen_nearestTen, ?_, decode_encode_decode s⟩
  rw [toUTF8_encode]
  exact fun b hb => byte_mem_encodeFrom hb

end Polyline

end Transit
