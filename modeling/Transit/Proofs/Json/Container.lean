import Transit.Json.Record
import Transit.Json.Reader

/-! # Texts of containers

A text from which a record can be read begins, behind its blanks, with a brace or a bracket.
-/
namespace Transit.Json

variable {names : List String} {j : Json} {r : Record}

theorem isBlank_of_isGap {c : Char} (h : isGap c = true) : Text.isBlank c = true := by
  simp only [isGap, Bool.or_eq_true, beq_iff_eq] at h
  obtain ((rfl | rfl) | rfl) | rfl := h <;> decide

theorem find?_not_isBlank {cs tail : List Char} {c : Char} (h : skipGap cs = c :: tail)
    (hc : Text.isBlank c = false) : cs.find? (!Text.isBlank ·) = some c := by
  rw [skipGap] at h
  induction cs with
  | nil => cases h
  | cons d cs ih =>
    by_cases hd : isGap d = true
    · rw [List.dropWhile_cons_of_pos hd] at h
      rw [List.find?_cons_of_neg (by simp [isBlank_of_isGap hd]), ih h]
    · rw [List.dropWhile_cons_of_neg hd] at h
      obtain ⟨rfl, -⟩ := List.cons.inj h
      rw [List.find?_cons_of_pos (by simp [hc])]

theorem Numeral.record?_value (n : Numeral) : n.value.record? names = none := by
  rw [Numeral.value]
  dsimp only
  split
  · split
    · rfl
    · split <;> rfl
  · split <;> rfl

/-- Only what is read behind a brace or a bracket is a record. -/
theorem opens_of_value? {fuel depth : Nat} {cs rest : List Char}
    (h : value? fuel depth cs = some (j, rest)) (hr : j.record? names = some r) :
    ∃ c tail, skipGap cs = c :: tail ∧ (c = '\x7b' ∨ c = '[') := by
  cases fuel with
  | zero => cases h
  | succ fuel =>
    rw [value?] at h
    split at h
    · rename_i tail hgap
      exact ⟨_, tail, hgap, .inl rfl⟩
    · rename_i tail hgap
      exact ⟨_, tail, hgap, .inr rfl⟩
    · split at h <;> cases h <;> cases hr
    · obtain ⟨_, -, hvalue⟩ := Option.map_eq_some_iff.mp h
      cases hvalue
      cases hr
    · obtain ⟨_, -, hvalue⟩ := Option.map_eq_some_iff.mp h
      cases hvalue
      cases hr
    · obtain ⟨_, -, hvalue⟩ := Option.map_eq_some_iff.mp h
      cases hvalue
      cases hr
    · obtain ⟨⟨n, _⟩, -, hvalue⟩ := Option.map_eq_some_iff.mp h
      cases hvalue
      rw [n.record?_value] at hr
      cases hr

/-- A text of a record begins with a brace or a bracket. -/
theorem opens_of_ofText? {text : String} (h : ofText? text = some j)
    (hr : j.record? names = some r) :
    ∃ c, text.toList.find? (!Text.isBlank ·) = some c ∧ (c = '\x7b' ∨ c = '[') := by
  rw [ofText?, ofChars?] at h
  split at h
  · rename_i j' rest hvalue
    split at h
    · cases h
      obtain ⟨c, tail, hgap, hc⟩ := opens_of_value? hvalue hr
      refine ⟨c, find?_not_isBlank hgap ?_, hc⟩
      obtain rfl | rfl := hc <;> rfl
    · cases h
  · cases h

end Transit.Json
