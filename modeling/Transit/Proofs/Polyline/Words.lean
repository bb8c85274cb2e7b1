import Transit.Proofs.Polyline

/-! # Polylines in machine words

Polylines are read and written here once more, in signed words of 64 bits. A sum, a difference, a
product or a shift to the left fails where its result is not the exact one, and so does a group that
is put into a byte; the other operations cannot leave their words. No operation ever fails, and
points and texts are the same as those that come from numbers of any size.
-/
namespace Transit.Polyline

/-- A number that is in the range of a word. -/
def FitsWord (v : Int) : Prop := -2 ^ 63 ≤ v ∧ v < 2 ^ 63

namespace Words

/-- The failure of an operation that leaves the range of its words. -/
structure Overflow

abbrev Checked (α : Type) := Except Overflow α

/-- A word, if it is worth the number that it should be worth. -/
def exactly {ω : Type} (worth : ω → Int) (w : ω) (v : Int) : Checked ω :=
  if worth w = v then .ok w else .error ⟨⟩

def add (a b : Int64) : Checked Int64 := exactly Int64.toInt (a + b) (a.toInt + b.toInt)

def sub (a b : Int64) : Checked Int64 := exactly Int64.toInt (a - b) (a.toInt - b.toInt)

def mul (a b : Int64) : Checked Int64 := exactly Int64.toInt (a * b) (a.toInt * b.toInt)

/-- A shift by less than the length of a word. -/
def shiftLeft (a n : Int64) : Checked Int64 :=
  if 0 ≤ n ∧ n < 64 then exactly Int64.toInt (a <<< n) (a.toInt * 2 ^ n.toInt.toNat)
  else .error ⟨⟩

/-! ### Operations -/

variable {a b v : Int} {n : Nat}

theorem toInt_ofInt (h : FitsWord v) : (Int64.ofInt v).toInt = v :=
  Int64.toInt_ofInt_of_le h.1 h.2

theorem exactly_ofInt (h : FitsWord v) : exactly Int64.toInt (.ofInt v) v = .ok (.ofInt v) :=
  if_pos (toInt_ofInt h)

theorem add_ofInt (ha : FitsWord a) (hb : FitsWord b) (h : FitsWord (a + b)) :
    add (.ofInt a) (.ofInt b) = .ok (.ofInt (a + b)) := by
  rw [add, toInt_ofInt ha, toInt_ofInt hb, ← Int64.ofInt_add, exactly_ofInt h]

theorem sub_ofInt (ha : FitsWord a) (hb : FitsWord b) (h : FitsWord (a - b)) :
    sub (.ofInt a) (.ofInt b) = .ok (.ofInt (a - b)) := by
  rw [sub, toInt_ofInt ha, toInt_ofInt hb, ← Int64.ofInt_sub, exactly_ofInt h]

theorem mul_ofInt (ha : FitsWord a) (hb : FitsWord b) (h : FitsWord (a * b)) :
    mul (.ofInt a) (.ofInt b) = .ok (.ofInt (a * b)) := by
  rw [mul, toInt_ofInt ha, toInt_ofInt hb, ← Int64.ofInt_mul, exactly_ofInt h]

/-- The amount of a shift counts up to the length of a word. -/
theorem toNat_amount (h : n < 64) : ((Int64.ofNat n).toBitVec.smod 64).toNat = n := by
  have hall : ∀ n < 64, ((Int64.ofNat n).toBitVec.smod 64).toNat = n := by decide
  exact hall n h

theorem shiftLeft_eq_mul (w : Int64) (h : n < 64) :
    w <<< Int64.ofNat n = w * Int64.ofInt (2 ^ n) := by
  rw [← Int64.toBitVec_inj, Int64.toBitVec_shiftLeft, Int64.toBitVec_mul, BitVec.shiftLeft_eq',
    toNat_amount h, BitVec.shiftLeft_eq_mul_twoPow, Int64.toBitVec_ofInt]
  congr 1
  have hcast : (2 ^ n : Int) = (2 ^ n : Nat) := by norm_cast
  rw [hcast, BitVec.ofInt_natCast, BitVec.twoPow_eq]
  apply BitVec.eq_of_toNat_eq
  simp [Nat.shiftLeft_eq]

theorem shiftLeft_ofInt (ha : FitsWord a) (hn : n < 64) (h : FitsWord (a * 2 ^ n)) :
    shiftLeft (.ofInt a) (.ofNat n) = .ok (.ofInt (a * 2 ^ n)) := by
  have hamount : (Int64.ofNat n).toInt = n := Int64.toInt_ofNat_of_lt (by omega)
  have hrange : 0 ≤ Int64.ofNat n ∧ Int64.ofNat n < 64 := by
    rw [Int64.le_iff_toInt_le, Int64.lt_iff_toInt_lt, hamount]
    exact ⟨Int.natCast_nonneg n, by simpa using hn⟩
  rw [shiftLeft, if_pos hrange, hamount, Int.toNat_natCast, toInt_ofInt ha, shiftLeft_eq_mul _ hn,
    ← Int64.ofInt_mul, exactly_ofInt h]

theorem shiftLeft_ofNat {m : Nat} (hn : n < 64) (h : m * 2 ^ n < 2 ^ 63) :
    shiftLeft (.ofNat m) (.ofNat n) = .ok (.ofNat (m * 2 ^ n)) := by
  have hm : m ≤ m * 2 ^ n := Nat.le_mul_of_pos_right m (Nat.two_pow_pos n)
  have hcast : ((m * 2 ^ n : Nat) : Int) = m * 2 ^ n := by push_cast; rfl
  rw [← Int64.ofInt_eq_ofNat, ← Int64.ofInt_eq_ofNat (n := m * 2 ^ n), hcast]
  exact shiftLeft_ofInt ⟨by omega, by omega⟩ hn ⟨by omega, by omega⟩

theorem toInt_shiftRight (w : Int64) (h : n < 64) :
    (w >>> Int64.ofNat n).toInt = w.toInt / 2 ^ n := by
  rw [← Int64.toInt_toBitVec, Int64.toBitVec_shiftRight, BitVec.sshiftRight_eq', toNat_amount h,
    BitVec.toInt_sshiftRight, Int64.toInt_toBitVec, Int.shiftRight_eq_div_pow]
  norm_cast

theorem toInt_not (w : Int64) : (~~~w).toInt = -w.toInt - 1 := by
  rw [Int64.toInt_not]
  have hlow := w.le_toInt
  have hhigh := w.toInt_lt
  exact Int.bmod_eq_of_le (by omega) (by omega)

theorem ofNat_or (x y : Nat) : Int64.ofNat x ||| Int64.ofNat y = Int64.ofNat (x ||| y) := by
  rw [← Int64.toBitVec_inj, Int64.toBitVec_or, Int64.toBitVec_ofNat', Int64.toBitVec_ofNat',
    Int64.toBitVec_ofNat', BitVec.ofNat_or]

theorem ofNat_and (x y : Nat) : Int64.ofNat x &&& Int64.ofNat y = Int64.ofNat (x &&& y) := by
  rw [← Int64.toBitVec_inj, Int64.toBitVec_and, Int64.toBitVec_ofNat', Int64.toBitVec_ofNat',
    Int64.toBitVec_ofNat', BitVec.ofNat_and]

/-! ### Reading -/

def unfold (low : Int64) : Int64 := if low &&& 1 = 1 then ~~~(low >>> 1) else low >>> 1

def readGroups (shift low : Int64) : List UInt8 → Checked (Option (Int64 × List UInt8))
  | [] => return none
  | b :: rest =>
    if b < 63 || 126 < b || 30 < shift then return none
    else do
      let group := b - 63
      let bits ← shiftLeft (Int64.ofNat (group &&& 31).toNat) shift
      let low := low ||| bits
      let shift ← add shift 5
      if group &&& 32 = 0 then return some (unfold low, rest) else readGroups shift low rest

def readValue (bytes : List UInt8) : Checked (Option (Int64 × List UInt8)) := readGroups 0 0 bytes

theorem unfold_ofNat (h : n < 2 ^ 63) : unfold (.ofNat n) = .ofInt (Polyline.unfold n) := by
  have hbit : Int64.ofNat n &&& 1 = Int64.ofNat (n % 2) := by
    rw [← Nat.and_one_is_mod]
    exact ofNat_and n 1
  have hhalf : (Int64.ofNat n >>> 1).toInt = (n / 2 : Nat) := by
    have hshift := toInt_shiftRight (n := 1) (.ofNat n) (by decide)
    rw [Int64.toInt_ofNat_of_lt h] at hshift
    exact hshift
  rw [unfold, hbit, Polyline.unfold, ← Int64.toInt_inj]
  rcases Nat.mod_two_eq_zero_or_one n with heven | hodd
  · rw [heven, if_neg (by decide), if_neg (by decide), hhalf, toInt_ofInt ⟨by omega, by omega⟩]
  · rw [hodd, if_pos (by decide), if_pos rfl, toInt_not, hhalf, toInt_ofInt ⟨by omega, by omega⟩]

/-- Groups of five bits lie side by side. -/
theorem or_group {shift low g : Nat} (hlow : low < 2 ^ shift) :
    low ||| g % 32 * 2 ^ shift = low + g % 32 * 2 ^ shift := by
  rw [Nat.mul_comm, Nat.or_comm, ← Nat.two_pow_add_eq_or_of_lt hlow, Nat.add_comm]

theorem add_group_lt {shift low : Nat} (hlow : low < 2 ^ shift) (g : Nat) :
    low + g % 32 * 2 ^ shift < 2 ^ (shift + 5) := by
  have hgroup : g % 32 * 2 ^ shift ≤ 31 * 2 ^ shift := Nat.mul_le_mul_right _ (by omega)
  rw [Nat.pow_add]
  omega

/-- Groups of six bits, of which the highest one is the mark. -/
theorem group_bits {g : Nat} (h : g < 64) :
    (UInt8.ofNat g &&& 31).toNat = g % 32 ∧ (UInt8.ofNat g &&& 32 = 0 ↔ g < 32) := by
  have hall : ∀ g < 64, (UInt8.ofNat g &&& 31).toNat = g % 32 ∧
      (UInt8.ofNat g &&& 32 = 0 ↔ g < 32) := by decide
  exact hall g h

theorem stops_iff {shift : Nat} (hshift : shift < 2 ^ 63) (b : UInt8) :
    (b < 63 || 126 < b || 30 < Int64.ofNat shift) ↔ ¬(IsGroupByte b ∧ shift ≤ 30) := by
  have hword : 30 < Int64.ofNat shift ↔ ¬shift ≤ 30 := by
    rw [Int64.lt_iff_toInt_lt, Int64.toInt_ofNat_of_lt hshift, Nat.not_le]
    exact Int.ofNat_lt (n := 30)
  simp only [Bool.or_eq_true, decide_eq_true_eq, isGroupByte_iff, hword]
  tauto

/-- A group is put where those before it end. -/
theorem readGroups_group {shift low g : Nat} (hshift : shift ≤ 30) (hlow : low < 2 ^ shift)
    (hg : g < 64) (rest : List UInt8) :
    readGroups (.ofNat shift) (.ofNat low) (groupByte g :: rest) =
      if g < 32 then .ok (some (unfold (.ofNat (low + g % 32 * 2 ^ shift)), rest))
      else readGroups (.ofNat (shift + 5)) (.ofNat (low + g % 32 * 2 ^ shift)) rest := by
  obtain ⟨hbits, hmark⟩ := group_bits hg
  have hpow : 2 ^ shift ≤ 2 ^ 30 := Nat.pow_le_pow_right (by decide) hshift
  have hplaced : g % 32 * 2 ^ shift ≤ 31 * 2 ^ 30 := Nat.mul_le_mul (by omega) hpow
  have hproceeds : ¬(groupByte g < 63 || 126 < groupByte g || 30 < Int64.ofNat shift) := by
    rw [stops_iff (by omega), not_not]
    exact ⟨isGroupByte_groupByte hg, hshift⟩
  have hshifted : shiftLeft (.ofNat (g % 32)) (.ofNat shift) =
      .ok (.ofNat (g % 32 * 2 ^ shift)) := shiftLeft_ofNat (by omega) (by omega)
  have hnext : add (.ofNat shift) 5 = .ok (.ofNat (shift + 5)) :=
    add_ofInt (a := shift) (b := 5) ⟨by omega, by omega⟩ ⟨by omega, by omega⟩ ⟨by omega, by omega⟩
  rw [readGroups, if_neg hproceeds]
  simp only [groupByte_sub, hbits, hmark, hshifted, hnext, bind, Except.bind, ofNat_or,
    or_group hlow]
  rfl

theorem readGroups_ofNat {shift low : Nat} (hshift : shift ≤ 35) (hlow : low < 2 ^ shift)
    (bytes : List UInt8) :
    readGroups (.ofNat shift) (.ofNat low) bytes =
      .ok ((Polyline.readGroups shift low bytes).map fun read => (.ofInt read.1, read.2)) := by
  induction bytes generalizing shift low with
  | nil => rfl
  | cons b bytes ih =>
    by_cases hgroup : IsGroupByte b ∧ shift ≤ 30
    · obtain ⟨g, hg, rfl⟩ := hgroup.1.exists_group
      have hlow' := add_group_lt hlow g
      have hpow : 2 ^ (shift + 5) ≤ 2 ^ 35 := Nat.pow_le_pow_right (by decide) (by omega)
      rw [readGroups_group hgroup.2 hlow hg, readGroups_cons hgroup.2 hg]
      by_cases hlast : g < 32
      · rw [if_pos hlast, if_pos hlast, unfold_ofNat (by omega)]
        rfl
      · rw [if_neg hlast, if_neg hlast]
        exact ih (by omega) hlow'
    · rw [readGroups_eq_none hgroup, readGroups, if_pos ((stops_iff (by omega) b).mpr hgroup)]
      rfl

theorem readValue_eq (bytes : List UInt8) :
    readValue bytes = .ok ((Polyline.readValue bytes).map fun read => (.ofInt read.1, read.2)) :=
  readGroups_ofNat (Nat.zero_le 35) Nat.one_pos bytes

theorem length_of_readValue {w : Int64} {rest bytes : List UInt8}
    (h : readValue bytes = .ok (some (w, rest))) : rest.length < bytes.length := by
  rw [readValue_eq] at h
  obtain ⟨read, hread, heq⟩ := Option.map_eq_some_iff.mp (Except.ok.inj h)
  cases heq
  exact readGroups_length hread

def values (bytes : List UInt8) : Checked (List Int64) :=
  match _ : readValue bytes with
  | .error overflow => .error overflow
  | .ok none => .ok []
  | .ok (some (w, rest)) => do return w :: (← values rest)
termination_by bytes.length
decreasing_by exact length_of_readValue (by assumption)

theorem values_eq (bytes : List UInt8) :
    values bytes = .ok ((Polyline.values bytes).map .ofInt) := by
  fun_induction Polyline.values bytes with
  | case1 | case2 =>
    rw [values]
    split <;> simp_all [readValue_eq]

/-- A coordinate that fits 32 bits. -/
def narrow? (w : Int64) : Option Int32 :=
  if -2147483648 ≤ w ∧ w ≤ 2147483647 then some w.toInt32 else none

def track (lat lon : Int64) : List Int64 → Checked (List Point)
  | north :: east :: rest => do
    let lat ← add lat north
    let lon ← add lon east
    let latE6 ← mul lat 10
    let lonE6 ← mul lon 10
    match narrow? latE6, narrow? lonE6 with
    | some y, some x => return ⟨y, x⟩ :: (← track lat lon rest)
    | _, _ => return []
  | _ => return []

def decode (s : String) : Checked (List Point) := do track 0 0 (← values s.toUTF8.toList)

theorem narrow?_ofInt (h : FitsWord (v * 10)) : narrow? (.ofInt (v * 10)) = millionths? v := by
  have htwo : (twoTo 31 : Int) = 2 ^ 31 := rfl
  have hleast : (-2147483648 : Int64).toInt = -2147483648 := by decide
  have hgreatest : (2147483647 : Int64).toInt = 2147483647 := by decide
  have hword : -2147483648 ≤ Int64.ofInt (v * 10) ∧ Int64.ofInt (v * 10) ≤ 2147483647 ↔
      -twoTo 31 ≤ v * 10 ∧ v * 10 < twoTo 31 := by
    rw [Int64.le_iff_toInt_le, Int64.le_iff_toInt_le, toInt_ofInt h, hleast, hgreatest, htwo]
    omega
  rw [narrow?, millionths?, if_congr hword rfl rfl, Int64.toInt32_ofInt]

/-- One difference leads from the range of coordinates to a place where the words do not end. -/
theorem advance_ofInt {x d : Int} (hx : -2 ^ 31 ≤ x * 10 ∧ x * 10 < 2 ^ 31) (hd : HasRoom d) :
    add (.ofInt x) (.ofInt d) = .ok (.ofInt (x + d)) ∧
      mul (.ofInt (x + d)) 10 = .ok (.ofInt ((x + d) * 10)) ∧
      narrow? (.ofInt ((x + d) * 10)) = millionths? (x + d) := by
  rw [HasRoom] at hd
  have hsum : FitsWord (x + d) := ⟨by omega, by omega⟩
  have hscaled : FitsWord ((x + d) * 10) := ⟨by omega, by omega⟩
  exact ⟨add_ofInt ⟨by omega, by omega⟩ ⟨by omega, by omega⟩ hsum,
    mul_ofInt (b := 10) hsum ⟨by omega, by omega⟩ hscaled, narrow?_ofInt hscaled⟩

theorem track_ofInt {lat lon : Int} (hin : InRange (lat * 10, lon * 10)) {vs : List Int}
    (h : ∀ v ∈ vs, HasRoom v) :
    track (.ofInt lat) (.ofInt lon) (vs.map .ofInt) = .ok (Polyline.track lat lon vs) := by
  fun_induction Polyline.track lat lon vs with
  | case1 lat lon north east rest lat' lon' y x hy hx ih =>
    obtain ⟨hnorth, heast, hrest⟩ := by simpa only [List.forall_mem_cons] using h
    obtain ⟨hlat, hlatE6, hy'⟩ := advance_ofInt hin.1 hnorth
    obtain ⟨hlon, hlonE6, hx'⟩ := advance_ofInt hin.2 heast
    have hin' : InRange (lat' * 10, lon' * 10) := by
      rw [← toInt_millionths? hy, ← toInt_millionths? hx]
      exact inRange_coordinates ⟨y, x⟩
    rw [List.map_cons, List.map_cons, track]
    simp only [hlat, hlon, hlatE6, hlonE6, hy', hx', bind, Except.bind]
    rw [hy, hx]
    dsimp only
    rw [ih hin' hrest]
    rfl
  | case2 lat lon north east rest lat' lon' hnone =>
    obtain ⟨hnorth, heast, -⟩ := by simpa only [List.forall_mem_cons] using h
    obtain ⟨hlat, hlatE6, hy'⟩ := advance_ofInt hin.1 hnorth
    obtain ⟨hlon, hlonE6, hx'⟩ := advance_ofInt hin.2 heast
    rw [List.map_cons, List.map_cons, track]
    simp only [hlat, hlon, hlatE6, hlonE6, hy', hx', bind, Except.bind]
    split
    · rename_i y x hy hx
      exact (hnone y x hy hx).elim
    · rfl
  | case3 vs lat lon hshort =>
    rcases vs with _ | ⟨north, _ | ⟨east, rest⟩⟩
    · rfl
    · rfl
    · exact (hshort north east rest rfl).elim

theorem hasRoom_unfold (h : n < 2 ^ 35) : HasRoom (Polyline.unfold n) := by
  rw [HasRoom, Polyline.unfold]
  split <;> omega

theorem hasRoom_of_readGroups {shift low : Nat} {bytes rest : List UInt8} (hshift : shift ≤ 35)
    (hlow : low < 2 ^ shift) (h : Polyline.readGroups shift low bytes = some (v, rest)) :
    HasRoom v := by
  induction bytes generalizing shift low with
  | nil => cases h
  | cons b bytes ih =>
    by_cases hgroup : IsGroupByte b ∧ shift ≤ 30
    · obtain ⟨g, hg, rfl⟩ := hgroup.1.exists_group
      have hlow' := add_group_lt hlow g
      have hpow : 2 ^ (shift + 5) ≤ 2 ^ 35 := Nat.pow_le_pow_right (by decide) (by omega)
      rw [readGroups_cons hgroup.2 hg] at h
      by_cases hlast : g < 32
      · rw [if_pos hlast] at h
        cases h
        exact hasRoom_unfold (Nat.lt_of_lt_of_le hlow' hpow)
      · rw [if_neg hlast] at h
        exact ih (by omega) hlow' h
    · rw [readGroups_eq_none hgroup] at h
      cases h

theorem hasRoom_of_mem_values {bytes : List UInt8} (h : v ∈ Polyline.values bytes) :
    HasRoom v := by
  fun_induction Polyline.values bytes with
  | case1 bytes first rest hread ih =>
    rcases List.mem_cons.mp h with rfl | hrest
    · exact hasRoom_of_readGroups (Nat.zero_le 35) Nat.one_pos hread
    · exact ih hrest
  | case2 => cases h

theorem decode_eq (s : String) : decode s = .ok (Polyline.decode s) := by
  have hstart : InRange (0 * 10, 0 * 10) := by decide
  rw [decode, values_eq]
  exact track_ofInt hstart fun v hv => hasRoom_of_mem_values hv

/-! ### Writing -/

/-- The byte of a group, which has to be below 64. -/
def groupByte (group : Int64) : Checked UInt8 := do
  let byte ← exactly (fun byte => (byte.toNat : Int)) group.toUInt64.toUInt8 group.toInt
  if byte < 64 then exactly (fun byte => (byte.toNat : Int)) (byte + 63) (byte.toNat + 63)
  else .error ⟨⟩

def groups (w : Int64) : Checked (List UInt8) :=
  if _ : 32 ≤ w then do
    let byte ← groupByte (32 ||| (w &&& 31))
    return byte :: (← groups (w >>> 5))
  else do return [← groupByte w]
termination_by w.toInt.toNat
decreasing_by
  rename_i hmore
  have hlarge : 32 ≤ w.toInt := Int64.le_iff_toInt_le.mp hmore
  have hnext : (w >>> 5).toInt = w.toInt / 2 ^ 5 := toInt_shiftRight w (by decide)
  omega

def fold (w : Int64) : Checked Int64 := do
  let double ← shiftLeft w 1
  return if w < 0 then ~~~double else double

def writeValue (w : Int64) : Checked (List UInt8) := do groups (← fold w)

def rounded (millionths : Int32) : Checked Int64 := do
  let w := millionths.toInt64
  if 0 ≤ w then return (← add w 5) / 10 else return (← sub w 5) / 10

def encodeFrom (lat lon : Int64) : List Point → Checked (List UInt8)
  | [] => return []
  | p :: rest => do
    let y ← rounded p.lat
    let x ← rounded p.lon
    let north ← writeValue (← sub y lat)
    let east ← writeValue (← sub x lon)
    return north ++ east ++ (← encodeFrom y x rest)

def encode (points : List Point) : Checked String := do
  return String.ofList ((← encodeFrom 0 0 points).map fun b => Char.ofNat b.toNat)

theorem groupByte_ofNat (h : n < 64) : groupByte (.ofNat n) = .ok (Polyline.groupByte n) := by
  have hall : ∀ n < 64, (groupByte (.ofNat n)).toOption = some (Polyline.groupByte n) := by decide
  have hbyte := hall n h
  cases hword : groupByte (.ofNat n) with
  | error overflow =>
    rw [hword] at hbyte
    cases hbyte
  | ok byte =>
    rw [hword] at hbyte
    exact congrArg _ (Option.some.inj hbyte)

theorem marked_ofNat (n : Nat) : 32 ||| (Int64.ofNat n &&& 31) = Int64.ofNat (32 + n % 32) := by
  have hgroup : Int64.ofNat n &&& 31 = Int64.ofNat (n % 32) := by
    rw [show 32 = 2 ^ 5 from rfl, ← Nat.and_two_pow_sub_one_eq_mod]
    exact ofNat_and n 31
  have hmark : 32 + n % 32 = 32 ||| n % 32 :=
    Nat.two_pow_add_eq_or_of_lt (i := 5) (Nat.mod_lt n (by decide)) 1
  rw [hgroup, hmark]
  exact ofNat_or 32 _

theorem shiftRight_ofNat (h : n < 2 ^ 63) : Int64.ofNat n >>> 5 = Int64.ofNat (n / 32) := by
  have hshift := toInt_shiftRight (n := 5) (.ofNat n) (by decide)
  rw [Int64.toInt_ofNat_of_lt h] at hshift
  rw [← Int64.toInt_inj, Int64.toInt_ofNat_of_lt (by omega)]
  exact hshift

theorem le_ofNat (h : n < 2 ^ 63) : 32 ≤ Int64.ofNat n ↔ 32 ≤ n := by
  rw [Int64.le_iff_toInt_le, Int64.toInt_ofNat_of_lt h]
  exact Int.ofNat_le (m := 32)

theorem groups_ofNat (h : n < 2 ^ 63) :
    groups (.ofNat n) = .ok ((Polyline.groups n).map Polyline.groupByte) := by
  fun_induction Polyline.groups n with
  | case1 n hlast =>
    rw [groups, dif_neg (mt (le_ofNat h).mp (by omega)), groupByte_ofNat (by omega)]
    rfl
  | case2 n hmore ih =>
    rw [groups, dif_pos ((le_ofNat h).mpr (by omega)), marked_ofNat, shiftRight_ofNat h,
      groupByte_ofNat (by omega), ih (by omega)]
    rfl

theorem fold_ofInt (h : FitsWord (v * 2)) : fold (.ofInt v) = .ok (.ofNat (Polyline.fold v)) := by
  obtain ⟨hlow, hhigh⟩ := h
  have hfits : FitsWord v := ⟨by omega, by omega⟩
  have hdouble : shiftLeft (.ofInt v) 1 = .ok (.ofInt (v * 2)) :=
    shiftLeft_ofInt (n := 1) hfits (by decide) ⟨by omega, by omega⟩
  have hsign : Int64.ofInt v < 0 ↔ v < 0 := by
    rw [Int64.lt_iff_toInt_lt, toInt_ofInt hfits]
    rfl
  rw [fold, hdouble, Polyline.fold]
  refine congrArg Except.ok ?_
  rw [if_congr hsign rfl rfl, ← Int64.toInt_inj]
  split
  · rw [toInt_not, toInt_ofInt ⟨hlow, hhigh⟩, Int64.toInt_ofNat_of_lt (by omega)]
    omega
  · rw [toInt_ofInt ⟨hlow, hhigh⟩, Int64.toInt_ofNat_of_lt (by omega)]
    omega

theorem writeValue_ofInt (h : FitsWord (v * 2)) :
    writeValue (.ofInt v) = .ok (Polyline.writeValue v) := by
  have hfold : Polyline.fold v < 2 ^ 63 := by
    obtain ⟨hlow, hhigh⟩ := h
    rw [Polyline.fold]
    split <;> omega
  rw [writeValue, fold_ofInt h]
  exact groups_ofNat hfold

/-- Tenths are towards zero in words and in numbers. -/
theorem div_ofInt (h : FitsWord v) : Int64.ofInt v / 10 = .ofInt (v.tdiv 10) := by
  have hleast : Int64.minValue.toInt = -2 ^ 63 := by decide
  have hgreatest : Int64.maxValue.toInt = 2 ^ 63 - 1 := by decide
  obtain ⟨hlow, hhigh⟩ := h
  rw [Int64.ofInt_tdiv (by omega) (by omega) (by omega) (by omega)]
  rfl

theorem rounded_eq (x : Int32) : rounded x = .ok (.ofInt (Polyline.rounded x)) := by
  have hlow := x.le_toInt
  have hhigh := x.toInt_lt
  have hfits {v : Int} (h : -2 ^ 32 ≤ v ∧ v < 2 ^ 32) : FitsWord v := ⟨by omega, by omega⟩
  have hx : FitsWord x.toInt := hfits ⟨by omega, by omega⟩
  have hsum : FitsWord (x.toInt + 5) := hfits ⟨by omega, by omega⟩
  have hdiff : FitsWord (x.toInt - 5) := hfits ⟨by omega, by omega⟩
  have hsign : 0 ≤ Int64.ofInt x.toInt ↔ 0 ≤ x.toInt := by
    rw [Int64.le_iff_toInt_le, toInt_ofInt hx]
    rfl
  rw [rounded, ← Int64.ofInt_int32ToInt, Polyline.rounded]
  by_cases hpos : 0 ≤ x.toInt
  · have hadd : add (.ofInt x.toInt) 5 = .ok (.ofInt (x.toInt + 5)) :=
      add_ofInt (b := 5) hx (hfits (by decide)) hsum
    simp only [if_pos (hsign.mpr hpos), if_pos hpos, hadd, ← div_ofInt hsum]
    rfl
  · have hsub : sub (.ofInt x.toInt) 5 = .ok (.ofInt (x.toInt - 5)) :=
      sub_ofInt (b := 5) hx (hfits (by decide)) hdiff
    simp only [if_neg (mt hsign.mp hpos), if_neg hpos, hsub, ← div_ofInt hdiff]
    rfl

theorem hasRoom_rounded (x : Int32) : HasRoom (Polyline.rounded x) := by
  have hzero : Polyline.rounded 0 = 0 := by decide
  simpa [hzero] using hasRoom_rounded_sub x 0

theorem sub_rounded (x y : Int32) :
    sub (.ofInt (Polyline.rounded x)) (.ofInt (Polyline.rounded y)) =
      .ok (.ofInt (Polyline.rounded x - Polyline.rounded y)) := by
  have hfits {v : Int} (h : HasRoom v) : FitsWord v := by
    rw [HasRoom] at h
    exact ⟨by omega, by omega⟩
  exact sub_ofInt (hfits (hasRoom_rounded x)) (hfits (hasRoom_rounded y))
    (hfits (hasRoom_rounded_sub x y))

theorem encodeFrom_rounded (lat lon : Int32) (points : List Point) :
    encodeFrom (.ofInt (Polyline.rounded lat)) (.ofInt (Polyline.rounded lon)) points =
      .ok (Polyline.encodeFrom (Polyline.rounded lat) (Polyline.rounded lon) points) := by
  induction points generalizing lat lon with
  | nil => rfl
  | cons p points ih =>
    have hdouble {v : Int} (h : HasRoom v) : FitsWord (v * 2) := by
      rw [HasRoom] at h
      exact ⟨by omega, by omega⟩
    have hnorth := writeValue_ofInt (hdouble (hasRoom_rounded_sub p.lat lat))
    have heast := writeValue_ofInt (hdouble (hasRoom_rounded_sub p.lon lon))
    rw [encodeFrom, rounded_eq, rounded_eq]
    simp only [bind, Except.bind, sub_rounded, hnorth, heast, ih]
    rfl

theorem encode_eq (points : List Point) : encode points = .ok (Polyline.encode points) := by
  have hstart : encodeFrom 0 0 points = .ok (encodeBytes points) := encodeFrom_rounded 0 0 points
  rw [encode, hstart]
  rfl

end Words

/-- Words of 64 bits are enough for every text and for every list of points, and so is a byte for
every group. -/
theorem words_suffice (s : String) (points : List Point) :
    Words.decode s = .ok (decode s) ∧ Words.encode points = .ok (encode points) :=
  ⟨Words.decode_eq s, Words.encode_eq points⟩

end Transit.Polyline
