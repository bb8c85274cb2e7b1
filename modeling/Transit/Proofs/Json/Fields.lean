import Transit.Proofs.Json.Record

/-! # Records read back

The fields of a record are listed once, each with its value if it has one. What is written of such a
list is a record again, in which each field is found as it was listed.
-/
namespace Transit.Json

variable {α : Type} {entries : List (String × Option Json)} {depth : Nat}

/-- The fields that have a value, of all that there are. -/
def given : List (String × Option Json) → List (String × Json)
  | [] => []
  | (name, some j) :: rest => (name, j) :: given rest
  | (_, none) :: rest => given rest

theorem given_optional (name : String) (write : α → Json) (a : Option α)
    (entries : List (String × Option Json)) :
    given ((name, a.map write) :: entries) = optionalField name write a ++ given entries := by
  cases a <;> rfl

theorem keys_given (entries : List (String × Option Json)) :
    ((given entries).map Prod.fst).Sublist (entries.map Prod.fst) := by
  induction entries with
  | nil => exact .slnil
  | cons entry entries ih =>
    rcases entry with ⟨name, _ | j⟩
    · exact ih.cons name
    · exact ih.cons_cons name

/-- Each field is found as it was listed. -/
theorem lookup_given (h : (entries.map Prod.fst).Nodup) {name : String} {j? : Option Json}
    (hname : (name, j?) ∈ entries) : (given entries).lookup name = j? := by
  induction entries with
  | nil => cases hname
  | cons entry entries ih =>
    obtain ⟨habsent, hrest⟩ := List.nodup_cons.mp h
    rcases List.mem_cons.mp hname with rfl | hlater
    · cases j? with
      | some j => exact List.lookup_cons_self
      | none =>
        rw [given, List.lookup_eq_none_iff]
        intro e he
        refine bne_iff_ne.mpr fun hsame => habsent ?_
        rw [hsame]
        exact (keys_given entries).subset (List.mem_map_of_mem he)
    · have hother : (name == entry.1) = false := by
        refine beq_eq_false_iff_ne.mpr fun hsame => habsent ?_
        rw [← hsame]
        exact List.mem_map_of_mem hlater
      rcases entry with ⟨n, _ | j⟩
      · exact ih hrest hlater
      · rw [given, List.lookup_cons, hother]
        exact ih hrest hlater

theorem record_given (h : (entries.map Prod.fst).Nodup) (names : List String) :
    (obj (given entries)).record? names = some ⟨false, given entries⟩ := by
  have hnodup := (keys_given entries).nodup h
  have honce : ∀ name, ((given entries).filter (·.1 == name)).length ≤ 1 := by
    intro name
    rw [← List.countP_eq_length_filter]
    have hcount := List.nodup_iff_count.mp hnodup name
    rw [List.count, List.countP_map] at hcount
    exact hcount
  rw [record?, if_pos]
  rw [List.all_eq_true]
  intro name _
  exact decide_eq_true (honce name)

/-- The values that fields have are plain. -/
inductive PlainEntries (depth : Nat) : List (String × Option Json) → Prop
  | nil : PlainEntries depth []
  | field {name : String} {j : Json} {rest : List (String × Option Json)}
    (plain : isPlain depth j = true) (others : PlainEntries depth rest) :
    PlainEntries depth ((name, some j) :: rest)
  | omitted {name : String} {rest : List (String × Option Json)}
    (others : PlainEntries depth rest) : PlainEntries depth ((name, none) :: rest)

theorem PlainEntries.optional {write : α → Json} (h : ∀ a, isPlain depth (write a) = true)
    {a : Option α} {name : String} (hrest : PlainEntries depth entries) :
    PlainEntries depth ((name, a.map write) :: entries) := by
  cases a with
  | none => exact .omitted hrest
  | some a => exact .field (h a) hrest

theorem PlainEntries.fields (h : PlainEntries depth entries) :
    fieldsPlain depth (given entries) = true := by
  induction h with
  | nil => rfl
  | field plain others ih => rw [given, fieldsPlain, plain, ih, Bool.and_true]
  | omitted others ih => exact ih

theorem plain_given (hdepth : depth < deepest) (h : PlainEntries (depth + 1) entries) :
    isPlain depth (obj (given entries)) = true := by
  rw [isPlain, Bool.and_eq_true, decide_eq_true_eq]
  exact ⟨hdepth, h.fields⟩

theorem plain_str (s : String) : isPlain depth (str s) = true := rfl

theorem plain_bool (b : Bool) : isPlain depth (bool b) = true := rfl

theorem str_ne_null (s : String) : str s ≠ .null := nofun

theorem string_write (s : String) : string? (.str s) = some s := rfl

theorem bool_write (b : Bool) : bool? (.bool b) = some b := rfl

namespace Record

variable {read : Json → Option α} {write : α → Json}

theorem required_given (h : (entries.map Prod.fst).Nodup) (name : String) {j : Json} {a : α}
    (hname : (name, some j) ∈ entries) (hread : read j = some a) :
    (Record.mk false (given entries)).required name read = some a :=
  required_of_get (lookup_given h hname) hread

theorem omissible_given (h : (entries.map Prod.fst).Nodup) (name : String) (value : Option α)
    (hname : (name, value.map write) ∈ entries) (hread : ∀ a, read (write a) = some a)
    (hnull : ∀ a, write a ≠ .null) :
    (Record.mk false (given entries)).omissible name read = some value :=
  omissible_of_get (lookup_given h hname) hread hnull

theorem defaulted_of_required {r : Record} {name : String} {default a : α}
    (h : r.required name read = some a) : r.defaulted name default read = some a := by
  obtain ⟨j, hget, hread⟩ := Option.bind_eq_some_iff.mp h
  rw [defaulted, hget]
  exact hread

/-- A field that is left out has its default. -/
theorem defaulted_given (h : (entries.map Prod.fst).Nodup) (name : String) {default a : α}
    {j? : Option Json}
    (hname : (name, j?) ∈ entries) (hread : ∀ j, j? = some j → read j = some a)
    (hdefault : j? = none → a = default) :
    (Record.mk false (given entries)).defaulted name default read = some a := by
  have hget : (Record.mk false (given entries)).get? name = j? := lookup_given h hname
  rw [defaulted, hget]
  cases j? with
  | none => exact congrArg some (hdefault rfl).symm
  | some j => exact hread j rfl

end Record

theorem uint32_write (n : UInt32) : uint32? (.nat n.toNat) = some n := by
  have hn : (0 : Int) ≤ n.toNat ∧ (n.toNat : Int) < twoTo 32 := ⟨Int.natCast_nonneg _, by
    exact_mod_cast n.toNat_lt⟩
  rw [uint32?, nat, natBelow?, if_pos hn]
  simp

theorem int32_write (n : Int32) : int32? (.int n.toInt) = some n := by
  have hn : -twoTo 31 ≤ n.toInt ∧ n.toInt ≤ twoTo 31 - 1 := by
    have hlo := n.le_toInt
    have hhi := n.toInt_lt
    have htwo : (twoTo 31 : Int) = 2 ^ 31 := by decide
    omega
  rw [int32?, intIn?, if_pos hn]
  simp

theorem plain_uint32 (n : UInt32) : isPlain depth (.nat n.toNat) = true :=
  fits_of_lt (Nat.lt_trans n.toNat_lt (by decide))

theorem plain_int32 (n : Int32) : isPlain depth (.int n.toInt) = true := by
  have hlo := n.le_toInt
  have hhi := n.toInt_lt
  have htwo : (twoTo 63 : Int) = 2 ^ 63 ∧ (twoTo 64 : Int) = 2 ^ 64 := by decide
  rw [isPlain, fits, Bool.and_eq_true, decide_eq_true_eq, decide_eq_true_eq]
  omega

-- By recursion on the value, as `isPlain` goes.
mutual

/-- No part of a plain value is refused. -/
theorem settled_of_plain {j : Json} {depth : Nat} (h : isPlain depth j = true) :
    isSettled j = true := by
  cases j with
  | null | bool | int | str => rfl
  | float x | refused => cases h
  | arr items =>
    rw [isPlain, Bool.and_eq_true] at h
    exact areSettled_of_plain h.2
  | obj fields =>
    rw [isPlain, Bool.and_eq_true] at h
    exact fieldsSettled_of_plain h.2

theorem areSettled_of_plain {items : List Json} {depth : Nat} (h : arePlain depth items = true) :
    areSettled items = true := by
  cases items with
  | nil => rfl
  | cons j items =>
    rw [arePlain, Bool.and_eq_true] at h
    rw [areSettled, settled_of_plain h.1, areSettled_of_plain h.2]
    rfl

theorem fieldsSettled_of_plain {fields : List (String × Json)} {depth : Nat}
    (h : fieldsPlain depth fields = true) : fieldsSettled fields = true := by
  rcases fields with _ | ⟨⟨name, j⟩, fields⟩
  · rfl
  · rw [fieldsPlain, Bool.and_eq_true] at h
    rw [fieldsSettled, settled_of_plain h.1, fieldsSettled_of_plain h.2]
    rfl

end

end Transit.Json
