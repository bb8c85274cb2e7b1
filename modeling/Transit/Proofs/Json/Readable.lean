import Transit.Proofs.Json.Fields

/-! # Values that can be read

A value is readable if there is some JSON that it is read from. A list is readable if its items are,
and what a record holds in a field is readable if the record was read. The other way round, a record
is put together from values that its fields can be read from.
-/
namespace Transit.Json

variable {α : Type} {read : Json → Option α} {a : α}

/-- There is something that this is read from. -/
def Readable (read : Json → Option α) (a : α) : Prop := ∃ j, read j = some a

open Classical in
/-- Something that a readable value is read from. -/
noncomputable def source (read : Json → Option α) (a : α) : Json :=
  if h : Readable read a then h.choose else .null

theorem read_source (h : Readable read a) : read (source read a) = some a := by
  rw [source, dif_pos h]
  exact h.choose_spec

theorem list_source {as : List α} (h : ∀ a ∈ as, Readable read a) :
    list? read (list (source read) as) = some as :=
  list_write_of_mem fun a ha => read_source (h a ha)

theorem readable_of_list {as : List α} {j : Json} (h : list? read j = some as) :
    ∀ a ∈ as, Readable read a := by
  cases j with
  | arr items =>
    intro a ha
    obtain ⟨j, -, hj⟩ := exists_of_readAll h a ha
    exact ⟨j, hj⟩
  | null | bool | int | float | str | obj | refused => cases h

namespace Record

variable {r : Record} {name : String} {value : Option α} {as : List α}

theorem readable_of_required (h : r.required name read = some a) : Readable read a := by
  obtain ⟨j, -, hread⟩ := Option.bind_eq_some_iff.mp h
  exact ⟨j, hread⟩

theorem readable_of_omissible (h : r.omissible name read = some value) :
    ∀ a ∈ value, Readable read a := by
  rintro a rfl
  rw [omissible] at h
  split at h
  · rename_i j hget
    rw [nullable.eq_def] at h
    split at h
    · cases h
    · obtain ⟨b, hread, hb⟩ := Option.map_eq_some_iff.mp h
      obtain rfl := Option.some.inj hb
      exact ⟨_, hread⟩
  · cases h

theorem readable_of_required_list (h : r.required name (list? read) = some as) :
    ∀ a ∈ as, Readable read a := by
  obtain ⟨j, -, hread⟩ := Option.bind_eq_some_iff.mp h
  exact readable_of_list hread

theorem readable_of_defaulted_list (h : r.defaulted name [] (list? read) = some as) :
    ∀ a ∈ as, Readable read a := by
  rw [defaulted] at h
  split at h
  · exact readable_of_list h
  · obtain rfl := Option.some.inj h
    exact List.forall_mem_nil _

variable {entries : List (String × Option Json)}

/-- A field that is put in where there is a value. -/
theorem omissible_source (hkeys : (entries.map Prod.fst).Nodup) (name : String)
    (hname : (name, value.map (source read)) ∈ entries) (h : ∀ a ∈ value, Readable read a)
    (hnull : read .null = none) :
    (Record.mk false (given entries)).omissible name read = some value := by
  have hget : (Record.mk false (given entries)).get? name = value.map (source read) :=
    lookup_given hkeys hname
  rw [omissible, hget]
  cases value with
  | none => rfl
  | some a =>
    have hread := read_source (h a rfl)
    rw [Option.map_some]
    cases hsource : source read a with
    | null =>
      rw [hsource, hnull] at hread
      cases hread
    | _ =>
      rw [hsource] at hread
      simp only [nullable, hread, Option.map_some]

/-- A field that is always there, and null if there is no value. -/
theorem optional_given {write : α → Json} (hkeys : (entries.map Prod.fst).Nodup) (name : String)
    (value : Option α) (hname : (name, some (ofOption write value)) ∈ entries)
    (hread : ∀ a, read (write a) = some a) (hnull : ∀ a, write a ≠ .null) :
    (Record.mk false (given entries)).optional name read = some value := by
  have hget : (Record.mk false (given entries)).get? name = some (ofOption write value) :=
    lookup_given hkeys hname
  rw [optional, hget]
  cases value with
  | none => rfl
  | some a => exact nullable_write hread hnull a

end Record

end Transit.Json
