import Mathlib.Data.List.Forall2
import Transit.Json.Record
import Transit.Proofs.Json.RoundTrip

/-! Parts of records read back: lists of values, optional fields, small numbers, and whole values as
text. -/
namespace Transit.Json

variable {α : Type} {read : Json → Option α} {write : α → Json} {depth : Nat}

theorem list_write_of_mem {as : List α} (h : ∀ a ∈ as, read (write a) = some a) :
    list? read (list write as) = some as := by
  rw [list, list?]
  induction as with
  | nil => rfl
  | cons a as ih =>
    have hrest := ih fun b hb => h b (.tail _ hb)
    rw [List.map_cons, readAll, h a (.head _), hrest]

theorem list_write (h : ∀ a, read (write a) = some a) (as : List α) :
    list? read (list write as) = some as :=
  list_write_of_mem fun a _ => h a

/-- A list is read item by item. -/
theorem forall₂_of_readAll {β : Type} {read : α → Option β} {as : List α} {bs : List β}
    (h : readAll read as = some bs) : List.Forall₂ (fun a b => read a = some b) as bs := by
  induction as generalizing bs with
  | nil =>
    obtain rfl := Option.some.inj h
    exact .nil
  | cons a as ih =>
    rw [readAll] at h
    split at h
    · rename_i b rest hb hrest
      obtain rfl := Option.some.inj h
      exact .cons hb (ih hrest)
    · cases h

/-- What is read from a list is read from its items. -/
theorem exists_of_readAll {β : Type} {read : α → Option β} {as : List α} {bs : List β}
    (h : readAll read as = some bs) : ∀ b ∈ bs, ∃ a ∈ as, read a = some b := by
  have hitems := forall₂_of_readAll h
  clear h
  induction hitems with
  | nil => exact nofun
  | cons hab _ ih =>
    refine List.forall_mem_cons.mpr ⟨⟨_, .head _, hab⟩, fun b hb => ?_⟩
    obtain ⟨a, ha, hread⟩ := ih b hb
    exact ⟨a, .tail _ ha, hread⟩

/-- Reading and then making something of it may be done item by item. -/
theorem readAll_bind {β γ : Type} (read : α → Option β) (make : β → Option γ) (as : List α) :
    readAll (fun a => (read a).bind make) as = (readAll read as).bind (readAll make) := by
  induction as with
  | nil => rfl
  | cons a as ih =>
    rw [readAll, readAll, ih]
    cases read a with
    | none => rfl
    | some b =>
      cases readAll read as with
      | none => cases hmake : make b <;> simp [hmake]
      | some bs => rw [Option.bind_some, Option.bind_some, Option.bind_some, readAll]

theorem readAll_some (as : List α) : readAll some as = some as := by
  induction as with
  | nil => rfl
  | cons a as ih => rw [readAll, ih]

/-- Each item of a list that is read is read. -/
theorem read_of_readAll {β : Type} {read : α → Option β} {as : List α} {bs : List β}
    (h : readAll read as = some bs) : ∀ a ∈ as, ∃ b ∈ bs, read a = some b := by
  have hitems := forall₂_of_readAll h
  clear h
  induction hitems with
  | nil => exact nofun
  | cons hab _ ih =>
    refine List.forall_mem_cons.mpr ⟨⟨_, .head _, hab⟩, fun a ha => ?_⟩
    obtain ⟨b, hb, hread⟩ := ih a ha
    exact ⟨b, .tail _ hb, hread⟩

/-- One item that cannot be read is enough. -/
theorem readAll_eq_none {β : Type} {read : α → Option β} {as : List α} {a : α} (ha : a ∈ as)
    (h : read a = none) : readAll read as = none := by
  by_contra hsome
  obtain ⟨bs, hbs⟩ := Option.ne_none_iff_exists'.mp hsome
  obtain ⟨b, -, hb⟩ := read_of_readAll hbs a ha
  rw [h] at hb
  cases hb

theorem readAll_append {β : Type} (read : α → Option β) (as bs : List α) :
    readAll read (as ++ bs) =
      (readAll read as).bind fun cs => (readAll read bs).map fun ds => cs ++ ds := by
  induction as with
  | nil => simp [readAll]
  | cons a as ih =>
    rw [List.cons_append, readAll, readAll, ih]
    cases read a with
    | none => rfl
    | some c =>
      cases readAll read as with
      | none => rfl
      | some cs => cases readAll read bs <;> rfl

theorem plain_list (hdepth : depth < deepest) (h : ∀ a, isPlain (depth + 1) (write a) = true)
    (as : List α) : isPlain depth (list write as) = true := by
  rw [list, isPlain, Bool.and_eq_true, decide_eq_true_eq]
  refine ⟨hdepth, ?_⟩
  induction as with
  | nil => rfl
  | cons a as ih => rw [List.map_cons, arePlain, h, ih, Bool.true_and]

theorem fits_of_lt {n : Nat} (h : n < twoTo 64) : fits n = true := by
  simp only [fits, Bool.and_eq_true, decide_eq_true_eq]
  omega

theorem uint8_write (b : UInt8) : uint8? (.nat b.toNat) = some b := by
  have hb : (0 : Int) ≤ b.toNat ∧ (b.toNat : Int) < twoTo 8 := ⟨Int.natCast_nonneg _, by
    exact_mod_cast b.toNat_lt⟩
  rw [uint8?, nat, natBelow?, if_pos hb]
  simp

theorem nullable_write (hread : ∀ a, read (write a) = some a) (hnull : ∀ a, write a ≠ .null)
    (a : α) : nullable read (write a) = some (some a) := by
  have ha := hread a
  have hne := hnull a
  cases hj : write a with
  | null => exact absurd hj hne
  | _ =>
    rw [hj] at ha
    simp only [nullable, ha, Option.map_some]

namespace Record

variable {r : Record} {name : String}

theorem required_of_get {j : Json} {a : α} (hget : r.get? name = some j) (hread : read j = some a) :
    r.required name read = some a := by
  rw [required, hget, Option.bind_some, hread]

/-- A field that is there when there is something to say. -/
theorem omissible_of_get {value : Option α} (hget : r.get? name = value.map write)
    (hread : ∀ a, read (write a) = some a) (hnull : ∀ a, write a ≠ .null) :
    r.omissible name read = some value := by
  rw [omissible, hget]
  cases value with
  | none => rfl
  | some a => exact nullable_write hread hnull a

/-- A text in a record is the one in its field, if the record can be read. -/
theorem optional_string {text : Option String}
    (h : r.optional name string? = some text) : (r.get? name).bind string? = text := by
  rw [optional] at h
  cases hj : r.get? name with
  | none =>
    simp only [hj] at h
    split at h
    · cases h
    · exact Option.some.inj h
  | some j =>
    simp only [hj] at h
    cases j with
    | null => exact Option.some.inj h
    | str s => exact Option.some.inj h
    | _ => cases h

end Record

/-- A plain value is read back from its text. -/
theorem ofText_compact {j : Json} (h : isPlain 0 j = true) : ofText? j.compact = some j := by
  rw [ofText?, compact, String.toList_ofList]
  exact ofChars_chars h

end Transit.Json
