import Transit.Point
import Transit.Proofs.Binary64

/-! # Points of the globe

A pair of coordinates is accepted as a point when it lies on the globe. What is accepted as degrees
is on the globe as well, rounding and all: the limits are whole numbers of millionths, and rounding
moves nothing across a whole number.
-/
namespace Transit.Point

variable {degrees lat lon : Binary64} {bound : Nat} {p : Point}

theorem onLatitude_iff {v : Int} : onLatitude v = true ↔ -90000000 ≤ v ∧ v ≤ 90000000 := by
  rw [onLatitude, Bool.and_eq_true, decide_eq_true_eq, decide_eq_true_eq]

theorem onLongitude_iff {v : Int} : onLongitude v = true ↔ -180000000 ≤ v ∧ v ≤ 180000000 := by
  rw [onLongitude, Bool.and_eq_true, decide_eq_true_eq, decide_eq_true_eq]

/-- A point is accepted if and only if it is on the globe. -/
theorem ofMillionths_eq_ok : ofMillionths p.lat p.lon = .ok p ↔ p.isOnGlobe = true := by
  rw [ofMillionths, isOnGlobe]
  cases onLatitude p.lat.toInt with
  | false => simp
  | true => cases onLongitude p.lon.toInt <;> simp

theorem million_within : million.within 1000000 = true := by decide +kernel

theorem toInt_ofDegreeValue (h : degrees.within bound = true)
    (hbound : bound * 1000000 < 2 ^ 31) :
    -((bound * 1000000 : Nat) : Int) ≤ (ofDegreeValue degrees).toInt ∧
      (ofDegreeValue degrees).toInt ≤ (bound * 1000000 : Nat) := by
  have hproduct := Binary64.within_mul h million_within (by omega)
  have hnearest := Binary64.toIntClamped_mem (-twoTo 31) (twoTo 31 - 1) hproduct (by decide)
    (by decide)
  rw [ofDegreeValue, Int32.toInt_ofInt_of_le (by omega) (by omega)]
  exact hnearest

theorem isOnGlobe_of_ofDegrees (h : ofDegrees lat lon = .ok p) : p.isOnGlobe = true := by
  rw [ofDegrees] at h
  split at h
  · cases h
  · split at h
    · cases h
    · rename_i hrange
      cases h
      rw [Bool.not_eq_true', Bool.not_eq_false, Bool.and_eq_true] at hrange
      have hlat := toInt_ofDegreeValue hrange.1 (by decide)
      have hlon := toInt_ofDegreeValue hrange.2 (by decide)
      rw [isOnGlobe, Bool.and_eq_true, onLatitude_iff, onLongitude_iff]
      exact ⟨hlat, hlon⟩

end Transit.Point
