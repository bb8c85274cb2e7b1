import Transit.Proofs.Hafas.LoadBearing
import Transit.Proofs.Stop.Order

/-! # Stops on the way

The stops between the ends of a ride come from its stopovers, the first and the last of which are
where one boards and alights. Each of the others is read at its own position, so one that cannot be
read leaves a gap between the indices of its neighbors.
-/
namespace Transit.Hafas

variable {α : Type} {j : Json} {s : Stop} {index : Nat} {stopovers : List Json}
  {positions : List Nat}

/-! ### Cutting out -/

/-- The items from one position up to another; these must be in order and not beyond the end. -/
def slice? (items : List α) (start stop : Nat) : Option (List α) :=
  if start ≤ stop ∧ stop ≤ items.length then some ((items.take stop).drop start) else none

/-- The items between the first and the last one, by their positions. -/
def inner? (items : List α) : Option (List α) :=
  match items.length with
  | 0 => some []
  | last + 1 => slice? items (min 1 last) last

/-- However many items there are, the positions are good. -/
theorem inner?_eq (items : List α) : inner? items = some items.dropLast.tail := by
  rcases items.eq_nil_or_concat' with rfl | ⟨init, last, rfl⟩
  · rfl
  · have hcut : init.drop (min 1 init.length) = init.tail := by
      cases init with
      | nil => rfl
      | cons first init => simp
    rw [inner?, List.length_append, List.length_singleton]
    dsimp only
    rw [slice?, if_pos ⟨Nat.min_le_right 1 _, by simp⟩, List.take_left, hcut, List.dropLast_concat]

/-! ### Positions -/

/-- The readable ones of the stopovers at some positions, each read at its own. -/
def stopsAt (stopovers : List Json) (positions : List Nat) : List Stop :=
  positions.filterMap fun i => stopovers[i]?.bind (stopOf? · i)

/-- The stops that come of the stopovers between the first and the last one. -/
def stopsBetween (stopovers : List Json) : List Stop :=
  stopsAt stopovers (List.range' 1 (stopovers.length - 2))

theorem stopsFrom_eq (before inner after : List Json) :
    stopsFrom before.length inner =
      stopsAt (before ++ (inner ++ after)) (List.range' before.length inner.length) := by
  induction inner generalizing before with
  | nil => rfl
  | cons j inner ih =>
    -- What has been counted goes before the rest, so that the positions stay as they are.
    have hrest := ih (before ++ [j])
    rw [List.length_append, List.length_singleton, List.append_assoc, List.singleton_append]
      at hrest
    have hat : (before ++ (j :: inner ++ after))[before.length]? = some j := by simp
    rw [stopsFrom, hrest, stopsAt, stopsAt, List.length_cons, List.range'_succ,
      List.filterMap_cons, hat, Option.bind_some]
    cases stopOf? j before.length <;> rfl

/-- The ends are left out by their positions. -/
theorem innerStops_eq (stopovers : List Json) : innerStops stopovers = stopsBetween stopovers := by
  cases stopovers with
  | nil => rfl
  | cons first rest =>
    rcases rest.eq_nil_or_concat' with rfl | ⟨inner, last, rfl⟩
    · rfl
    · have hinner : innerStops (first :: (inner ++ [last])) = stopsFrom 1 inner := by
        rw [innerStops, ← List.cons_append, List.dropLast_concat, List.tail_cons]
      have hlength : (first :: (inner ++ [last])).length - 2 = inner.length := by simp
      rw [hinner, stopsBetween, hlength]
      exact stopsFrom_eq [first] inner [last]

theorem stopsBetween_eq_nil (h : stopovers.length ≤ 2) : stopsBetween stopovers = [] := by
  rw [stopsBetween, Nat.sub_eq_zero_of_le h]
  rfl

/-! ### Ordinals -/

theorem ordinals_of_stopOf? (h : stopOf? j index = some s) :
    s.sequence = none ∧ s.index = some (UInt32.ofNat index) := by
  obtain ⟨raw, -, h⟩ := Option.bind_eq_some_iff.mp h
  obtain ⟨location, -, h⟩ := Option.bind_eq_some_iff.mp h
  cases h
  exact ⟨rfl, rfl⟩

theorem ofNat_lt_ofNat {i k : Nat} (hlt : i < k) (hk : k < 2 ^ 32) :
    UInt32.ofNat i < UInt32.ofNat k := by
  rw [UInt32.lt_iff_toNat_lt, UInt32.toNat_ofNat_of_lt' (hlt.trans hk),
    UInt32.toNat_ofNat_of_lt' hk]
  exact hlt

/-- Positions that fit 32 bits are told apart by their indices. -/
theorem pairwise_precedes (hsorted : positions.Pairwise (· < ·))
    (hfits : ∀ i ∈ positions, i < 2 ^ 32) :
    (stopsAt stopovers positions).Pairwise Stop.Precedes := by
  rw [stopsAt, List.pairwise_filterMap]
  refine hsorted.imp_of_mem ?_
  intro i k _ hk hlt s hs t ht
  obtain ⟨j, -, hs⟩ := Option.bind_eq_some_iff.mp hs
  obtain ⟨j', -, ht⟩ := Option.bind_eq_some_iff.mp ht
  exact ⟨_, (ordinals_of_stopOf? hs).2, _, (ordinals_of_stopOf? ht).2,
    ofNat_lt_ofNat hlt (hfits k hk)⟩

theorem precedes_stopsBetween (h : stopovers.length < 2 ^ 32) :
    (stopsBetween stopovers).Pairwise Stop.Precedes := by
  refine pairwise_precedes List.pairwise_lt_range' fun i hi => ?_
  have hrange := List.mem_range'_1.mp hi
  omega

/-- Without sequence numbers, growing indices are the order of the stops. -/
theorem sorted_of_precedes (h : (stopsAt stopovers positions).Pairwise Stop.Precedes) :
    StableSort.SortedBy Stop.ordinal (stopsAt stopovers positions) := by
  have hsequence : ∀ s ∈ stopsAt stopovers positions, s.sequence = none := by
    intro s hs
    obtain ⟨i, -, hread⟩ := List.mem_filterMap.mp hs
    obtain ⟨j, -, hstop⟩ := Option.bind_eq_some_iff.mp hread
    exact (ordinals_of_stopOf? hstop).1
  exact h.imp_of_mem fun hs ht hprecedes =>
    hprecedes.ordinal_le (hsequence _ hs) (hsequence _ ht)

/-! ### Rides -/

theorem RawLeg.intermediateStops_of_toLeg? {raw : RawLeg} {l : PublicLeg}
    (h : raw.toLeg? = some (.ride l)) :
    ∃ leg : PublicLeg, l.intermediateStops =
      (leg.withIntermediateStops (innerStops raw.stopovers)).intermediateStops := by
  rw [toLeg?_eq] at h
  obtain ⟨origin, -, h⟩ := Option.bind_eq_some_iff.mp h
  obtain ⟨destination, -, h⟩ := Option.bind_eq_some_iff.mp h
  rcases between?_eq_some h with ⟨-, leg, -, hleg⟩ | ⟨-, leg, hride, hleg⟩
  · cases hleg
  · cases hleg
    obtain ⟨built, -, hride⟩ := Option.bind_eq_some_iff.mp hride
    cases hride
    exact ⟨built, rfl⟩

/-- Between the ends of a ride are the readable stopovers between the first and the last one, as the
backend lists them. The positions where they are cut out are good for any number of stopovers. Each
stop has no sequence number, and its index is the position of its stopover. Stops that are put into
a ride are sorted stably, by sequence number and then by index, what is missing coming first; an
index has 32 bits, and as long as these can tell the positions, the indices grow and sorting changes
nothing. -/
theorem inner_stops_listed {raw : RawLeg} {l : PublicLeg} (h : raw.toLeg? = some (.ride l)) :
    (inner? raw.stopovers).map (stopsFrom 1) = some (stopsBetween raw.stopovers) ∧
      (∀ i j s, stopOf? j i = some s → s.sequence = none ∧ s.index = some (UInt32.ofNat i)) ∧
      (∀ (leg : PublicLeg) (stops : List Stop), StableSort.IsStableSort Stop.ordinal stops
        (leg.withIntermediateStops stops).intermediateStops) ∧
      StableSort.IsStableSort Stop.ordinal (stopsBetween raw.stopovers) l.intermediateStops ∧
      (raw.stopovers.length < 2 ^ 32 → l.intermediateStops = stopsBetween raw.stopovers ∧
        l.intermediateStops.Pairwise Stop.Precedes) ∧
      (raw.stopovers.length ≤ 2 → l.intermediateStops = []) := by
  have hinner := innerStops_eq raw.stopovers
  obtain ⟨leg, hleg⟩ := RawLeg.intermediateStops_of_toLeg? h
  have hsorted := leg.isStableSort_withIntermediateStops (innerStops raw.stopovers)
  rw [← hleg, hinner] at hsorted
  have hkept (hfits : raw.stopovers.length < 2 ^ 32) :
      l.intermediateStops = stopsBetween raw.stopovers :=
    hsorted.eq_self (sorted_of_precedes (precedes_stopsBetween hfits))
  refine ⟨?_, fun i j s => ordinals_of_stopOf?, PublicLeg.isStableSort_withIntermediateStops,
    hsorted, fun hfits => ⟨hkept hfits, ?_⟩, fun hfew => ?_⟩
  · rw [inner?_eq, ← hinner]
    rfl
  · rw [hkept hfits]
    exact precedes_stopsBetween hfits
  · rw [hkept (by omega), stopsBetween_eq_nil hfew]

theorem exists_ride {β : Type} {b : β} (f : RawLeg → β)
    (h : ((RawLeg.ofJson? j).bind fun raw =>
      (raw.toLeg?.bind Leg.ride?).map fun _ => f raw) = some b) :
    ∃ raw l, RawLeg.ofJson? j = some raw ∧ raw.toLeg? = some (.ride l) ∧ f raw = b := by
  obtain ⟨raw, hraw, h⟩ := Option.bind_eq_some_iff.mp h
  obtain ⟨l, hride, hb⟩ := Option.map_eq_some_iff.mp h
  obtain ⟨leg, hleg, hl⟩ := Option.bind_eq_some_iff.mp hride
  cases leg with
  | individual leg => cases hl
  | ride leg => exact ⟨raw, leg, hraw, hleg, hb⟩

def halt (id : String) : Json := .obj [("stop", .obj [("id", .str id)])]

/-- A ride with three stopovers on the way, the second of which cannot be read. -/
def haltingLeg : Json :=
  legWith [("line", .obj []),
    ("stopovers", .arr [halt "1", halt "3", .null, halt "4", halt "2"])]

/-- The unreadable stopover counts among the others, and without stopovers there are no stops. -/
theorem halts_listed :
    (∃ raw l, RawLeg.ofJson? haltingLeg = some raw ∧ raw.toLeg? = some (.ride l) ∧
      raw.stopovers.length < 2 ^ 32 ∧ l.intermediateStops.map Stop.index = [some 1, some 3] ∧
      l.intermediateStops.Pairwise Stop.Precedes ∧
      ∃ s, stopOf? (halt "3") 1 = some s ∧ s.sequence = none ∧ s.index = some 1) ∧
    ∃ raw l, RawLeg.ofJson? (legWith [("line", .obj [])]) = some raw ∧
      raw.toLeg? = some (.ride l) ∧ raw.stopovers.length ≤ 2 ∧ l.intermediateStops = [] := by
  constructor
  · obtain ⟨raw, l, hraw, hride, hread⟩ := exists_ride (j := haltingLeg)
      (b := (5, [some 1, some 3]))
      (fun raw => (raw.stopovers.length, (stopsBetween raw.stopovers).map Stop.index))
      (by decide +kernel)
    obtain ⟨hlength, hindex⟩ := Prod.mk.inj hread
    have hfits : raw.stopovers.length < 2 ^ 32 := by omega
    obtain ⟨-, hordinals, -, -, hkept, -⟩ := inner_stops_listed hride
    obtain ⟨hstops, hprecedes⟩ := hkept hfits
    obtain ⟨s, hs⟩ := Option.isSome_iff_exists.mp
      (by decide +kernel : (stopOf? (halt "3") 1).isSome = true)
    exact ⟨raw, l, hraw, hride, hfits, by rw [hstops, hindex], hprecedes, s, hs,
      hordinals 1 _ s hs⟩
  · obtain ⟨raw, l, hraw, hride, hlength⟩ := exists_ride (j := legWith [("line", .obj [])])
      (b := 0) (fun raw => raw.stopovers.length) (by decide +kernel)
    have hfew : raw.stopovers.length ≤ 2 := by omega
    obtain ⟨-, -, -, -, -, hnone⟩ := inner_stops_listed hride
    exact ⟨raw, l, hraw, hride, hfew, hnone hfew⟩

end Transit.Hafas
