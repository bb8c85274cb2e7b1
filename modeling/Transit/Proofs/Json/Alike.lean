import Transit.Proofs.Json.Record

/-! # Records that are alike

Two values are alike if both are records of the same form, with fields that agree in whatever way is
asked of each of them, or if neither is a record. What a field holds is read from both in the same
way where it is the same in both.
-/
namespace Transit.Json

/-- What is asked of the values that a field has in two records; each of them may be missing. -/
abbrev Agreement := String → Option Json → Option Json → Prop

variable {α : Type} {names : List String} {agree : Agreement} {name : String} {j j' : Json}

namespace Record

variable {r r' : Record}

/-- Both are objects, or both are lists of the same length, and the fields agree. -/
structure Agree (names : List String) (agree : Agreement) (r r' : Record) : Prop where
  form : r.asList = r'.asList
  size : r.asList = true → r.fields.map Prod.fst = r'.fields.map Prod.fst
  fields : ∀ name ∈ names, agree name (r.get? name) (r'.get? name)

theorem isSome_get? (r : Record) (name : String) :
    (r.get? name).isSome = true ↔ name ∈ r.fields.map Prod.fst := by
  rw [get?, List.lookup_isSome_iff, List.mem_map]
  exact exists_congr fun field => and_congr_right fun _ => by rw [beq_iff_eq, eq_comm]

/-- In lists of the same length the same fields are given. -/
theorem Agree.isSome_get? (h : Agree names agree r r') (hlist : r.asList = true) (name : String) :
    (r.get? name).isSome = (r'.get? name).isSome := by
  rw [Bool.eq_iff_iff, r.isSome_get?, r'.isSome_get?, h.size hlist]

theorem optional_congr (hform : r.asList = r'.asList) (hget : r.get? name = r'.get? name)
    (read : Json → Option α) : r.optional name read = r'.optional name read := by
  rw [optional, optional, hform, hget]

theorem defaulted_congr (hget : r.get? name = r'.get? name) (default : α)
    (read : Json → Option α) : r.defaulted name default read = r'.defaulted name default read := by
  rw [defaulted, defaulted, hget]

end Record

/-- The same kind of record, with fields that agree. -/
def Alike (names : List String) (agree : Agreement) (j j' : Json) : Prop :=
  Option.Rel (Record.Agree names agree) (j.record? names) (j'.record? names)

theorem Alike.refl (hagree : ∀ name v, agree name v v) (j : Json) : Alike names agree j j := by
  rw [Alike]
  cases j.record? names with
  | none => exact .none
  | some r => exact .some ⟨rfl, fun _ => rfl, fun name _ => hagree name _⟩

theorem Alike.records (h : Alike names agree j j') :
    Option.Rel (fun r r' => j.record? names = some r ∧ j'.record? names = some r' ∧
      r.Agree names agree r') (j.record? names) (j'.record? names) := by
  rw [Alike] at h
  generalize j.record? names = record at h ⊢
  generalize j'.record? names = record' at h ⊢
  cases h with
  | none => exact .none
  | some h => exact .some ⟨rfl, rfl, h⟩

/-- Fields of the same name, with values that agree. -/
abbrev FieldsAgree (agree : Agreement) (fields fields' : List (String × Json)) : Prop :=
  List.Forall₂ (fun f f' => f.1 = f'.1 ∧ agree f.1 (some f.2) (some f'.2)) fields fields'

theorem FieldsAgree.count {fields fields' : List (String × Json)}
    (h : FieldsAgree agree fields fields') (n : String) :
    (fields.filter (·.1 == n)).length = (fields'.filter (·.1 == n)).length := by
  induction h with
  | nil => rfl
  | cons hf _ ih =>
    rw [List.filter_cons, List.filter_cons, hf.1]
    split
    · rw [List.length_cons, List.length_cons, ih]
    · exact ih

theorem FieldsAgree.lookup {fields fields' : List (String × Json)}
    (h : FieldsAgree agree fields fields') {n : String}
    (hmissing : n ∉ fields.map Prod.fst → agree n none none) :
    agree n (fields.lookup n) (fields'.lookup n) := by
  induction h with
  | nil => exact hmissing List.not_mem_nil
  | @cons f f' _ _ hf _ ih =>
    obtain ⟨name, v⟩ := f
    obtain ⟨name', v'⟩ := f'
    obtain ⟨rfl, hv⟩ := hf
    by_cases hn : n = name
    · subst hn
      rw [List.lookup_cons_self, List.lookup_cons_self]
      exact hv
    · simp only [List.lookup_cons, beq_eq_false_iff_ne.mpr hn]
      refine ih fun habsent => hmissing ?_
      rw [List.map_cons, List.mem_cons, not_or]
      exact ⟨hn, habsent⟩

/-- Objects with the same names in the same order are alike if their values agree one by one. -/
theorem Alike.ofFields {fields fields' : List (String × Json)}
    (hmissing : ∀ n ∉ fields.map Prod.fst, agree n none none)
    (h : FieldsAgree agree fields fields') : Alike names agree (.obj fields) (.obj fields') := by
  rw [Alike, record?, record?]
  simp only [h.count]
  split
  · exact .some ⟨rfl, nofun, fun n _ => h.lookup (hmissing n)⟩
  · exact .none

section Rel

variable {α β γ δ : Type} {related : α → β → Prop} {made : γ → δ → Prop}

theorem rel_mono {related' : α → β → Prop} {a : Option α} {b : Option β}
    (h : Option.Rel related a b) (himp : ∀ x y, related x y → related' x y) :
    Option.Rel related' a b := by
  cases h with
  | none => exact .none
  | some hab => exact .some (himp _ _ hab)

theorem rel_bind {a : Option α} {b : Option β} {read : α → Option γ} {read' : β → Option δ}
    (h : Option.Rel related a b)
    (hread : ∀ a b, related a b → Option.Rel made (read a) (read' b)) :
    Option.Rel made (a.bind read) (b.bind read') := by
  cases h with
  | none => exact .none
  | some hab => exact hread _ _ hab

theorem rel_bind_of_eq {a a' : Option α} {read : α → Option γ} {read' : α → Option δ} (h : a = a')
    (hread : ∀ a, Option.Rel made (read a) (read' a)) :
    Option.Rel made (a.bind read) (a'.bind read') := by
  subst h
  cases a with
  | none => exact .none
  | some a => exact hread a

/-- What can be read of one list item by item can be read of the other. -/
theorem readAll_rel {read : α → Option γ} {read' : β → Option δ} {as : List α} {bs : List β}
    (h : List.Forall₂ related as bs)
    (hread : ∀ a b, related a b → Option.Rel made (read a) (read' b)) :
    Option.Rel (List.Forall₂ made) (readAll read as) (readAll read' bs) := by
  induction h with
  | nil => exact .some .nil
  | @cons a b as bs hab _ ih =>
    have hhead := hread a b hab
    rw [readAll, readAll]
    generalize read a = c at hhead ⊢
    generalize read' b = d at hhead ⊢
    generalize readAll read as = cs at ih ⊢
    generalize readAll read' bs = ds at ih ⊢
    cases hhead with
    | none => exact .none
    | some hcd =>
      cases ih with
      | none => exact .none
      | some hrest => exact .some (.cons hcd hrest)

theorem rel_of_eq {related : α → α → Prop} {a a' : Option α} (h : a = a')
    (hrelated : ∀ x, related x x) : Option.Rel related a a' := by
  subst h
  cases a with
  | none => exact .none
  | some a => exact .some (hrelated a)

theorem rel_iff {a : Option α} {b : Option β} : Option.Rel related a b ↔
    a.isSome = b.isSome ∧ ∀ x y, a = some x → b = some y → related x y := by
  cases a with
  | none => cases b <;> simp
  | some a => cases b <;> simp

theorem map_eq_of_rel {f : α → γ} {g : β → γ} {a : Option α} {b : Option β}
    (h : Option.Rel related a b) (hsame : ∀ x y, related x y → f x = g y) :
    a.map f = b.map g := by
  cases h with
  | none => rfl
  | some hab => exact congrArg some (hsame _ _ hab)

theorem map_eq_of_forall₂ {f : α → γ} {g : β → γ} {as : List α} {bs : List β}
    (h : List.Forall₂ related as bs) (hsame : ∀ a b, related a b → f a = g b) :
    as.map f = bs.map g := by
  rw [← List.forall₂_eq_eq_eq, List.forall₂_map_left_iff, List.forall₂_map_right_iff]
  exact h.imp hsame

end Rel

end Transit.Json
