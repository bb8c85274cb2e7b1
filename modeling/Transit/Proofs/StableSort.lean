import Mathlib.Order.Lattice

/-! # Stable sorting by a key

A stable sort keeps, for each key, the elements with that key in their order. Together with the
order of the keys this determines the sorted list, so an equation between sorted lists comes down
to one between filters.
-/
namespace Transit.StableSort

variable {α κ : Type*} [LinearOrder κ] {key : α → κ}

abbrev SortedBy (key : α → κ) (l : List α) : Prop := l.Pairwise fun a b => key a ≤ key b

def sortBy (key : α → κ) (l : List α) : List α := l.mergeSort fun a b => key a ≤ key b

/-- The elements with a given key. -/
def tie (key : α → κ) (k : κ) (l : List α) : List α := l.filter fun a => key a = k

theorem sortBy_perm (l : List α) : (sortBy key l).Perm l := List.mergeSort_perm l _

private theorem le_chain (a b c : α) (hab : decide (key a ≤ key b) = true)
    (hbc : decide (key b ≤ key c) = true) : decide (key a ≤ key c) = true := by
  rw [decide_eq_true_eq] at *
  exact le_trans hab hbc

private theorem le_either (a b : α) :
    (decide (key a ≤ key b) || decide (key b ≤ key a)) = true := by
  simpa using le_total (key a) (key b)

theorem sortBy_sorted (l : List α) : SortedBy key (sortBy key l) := by
  simpa [sortBy] using List.pairwise_mergeSort (@le_chain _ _ _ key) le_either l

/-- A sorted part of a list stays in its order. -/
theorem sublist_sortBy {part l : List α} (hs : SortedBy key part) (h : part.Sublist l) :
    part.Sublist (sortBy key l) :=
  List.sublist_mergeSort le_chain le_either (by simpa using hs) h

theorem mem_tie {k : κ} {l : List α} {a : α} : a ∈ tie key k l ↔ a ∈ l ∧ key a = k := by
  simp [tie]

@[simp] theorem tie_append (k : κ) (l m : List α) :
    tie key k (l ++ m) = tie key k l ++ tie key k m := List.filter_append ..

theorem tie_sorted (k : κ) (l : List α) : SortedBy key (tie key k l) := by
  apply List.pairwise_of_forall_mem_list
  intro a ha b hb
  rw [(mem_tie.mp ha).2, (mem_tie.mp hb).2]

/-- Stability: elements with the same key stay in their order. -/
@[simp] theorem tie_sortBy (k : κ) (l : List α) : tie key k (sortBy key l) = tie key k l := by
  have hsub : (tie key k l).Sublist (sortBy key l) :=
    sublist_sortBy (tie_sorted k l) List.filter_sublist
  have hties : (tie key k l).Sublist (tie key k (sortBy key l)) := by
    have hfilter := hsub.filter fun a => key a = k
    simpa [tie] using hfilter
  have hlen : (tie key k (sortBy key l)).length = (tie key k l).length :=
    ((sortBy_perm l).filter _).length_eq
  exact (hties.eq_of_length hlen.symm).symm

private theorem head_le {a b : α} {l m : List α} (hl : SortedBy key (a :: l))
    (h : ∀ k, tie key k (a :: l) = tie key k (b :: m)) : key a ≤ key b := by
  have hb : b ∈ tie key (key b) (a :: l) := by
    rw [h]
    simp [tie]
  rcases List.mem_cons.mp (mem_tie.mp hb).1 with rfl | hmem
  · exact le_rfl
  · exact List.rel_of_pairwise_cons hl hmem

/-- Sorted lists with the same elements for each key, in the same order, are equal. -/
theorem eq_of_tie {l m : List α} (hl : SortedBy key l) (hm : SortedBy key m)
    (h : ∀ k, tie key k l = tie key k m) : l = m := by
  induction l generalizing m with
  | nil =>
    cases m with
    | nil => rfl
    | cons b m => simpa [tie] using h (key b)
  | cons a l ih =>
    cases m with
    | nil => simpa [tie] using h (key a)
    | cons b m =>
      have hab : key a = key b := le_antisymm (head_le hl h) (head_le hm fun k => (h k).symm)
      have hcons : a :: tie key (key a) l = b :: tie key (key a) m := by
        simpa [tie, hab] using h (key a)
      obtain ⟨rfl, -⟩ := List.cons.inj hcons
      congr 1
      apply ih hl.tail hm.tail
      intro k
      by_cases hk : key a = k
      · simpa [tie, hk] using h k
      · simpa [tie, hk] using h k

/-- The stable sort is the only sorted list that keeps the order within each key. -/
theorem eq_sortBy {l m : List α} (hl : SortedBy key l) (h : ∀ k, tie key k l = tie key k m) :
    l = sortBy key m :=
  eq_of_tie hl (sortBy_sorted m) fun k => by rw [tie_sortBy, h]

theorem sortBy_eq_self {l : List α} (h : SortedBy key l) : sortBy key l = l :=
  (eq_sortBy h fun _ => rfl).symm

/-- The elements of a list in the order of their keys, those with the same key in their order. -/
structure IsStableSort (key : α → κ) (l sorted : List α) : Prop where
  perm : sorted.Perm l
  ordered : SortedBy key sorted
  ties : ∀ k, tie key k sorted = tie key k l

theorem isStableSort_sortBy (l : List α) : IsStableSort key l (sortBy key l) :=
  ⟨sortBy_perm l, sortBy_sorted l, fun k => tie_sortBy k l⟩

theorem IsStableSort.eq_self {l sorted : List α} (h : IsStableSort key l sorted)
    (hl : SortedBy key l) : sorted = l :=
  eq_of_tie h.ordered hl h.ties

/-- Nothing behind the first elements of a sorted list has a smaller key than one of them. -/
theorem take_sortBy_le (n : Nat) (l : List α) :
    ∀ a ∈ (sortBy key l).take n, ∀ b ∈ (sortBy key l).drop n, key a ≤ key b := by
  have hsorted : SortedBy key (sortBy key l) := sortBy_sorted l
  rw [← List.take_append_drop n (sortBy key l), SortedBy, List.pairwise_append] at hsorted
  exact hsorted.2.2

/-- A front part may be sorted on its own before all is sorted. -/
theorem sortBy_sortBy_append (l m : List α) :
    sortBy key (sortBy key l ++ m) = sortBy key (l ++ m) :=
  eq_sortBy (sortBy_sorted _) fun k => by simp

private theorem tie_eq_nil_of_lt {l m : List α} (k : κ) (h : ∀ a ∈ l, ∀ b ∈ m, key a < key b) :
    tie key k l = [] ∨ tie key k m = [] := by
  by_contra hne
  rw [not_or] at hne
  obtain ⟨a, ha⟩ := List.exists_mem_of_ne_nil _ hne.1
  obtain ⟨b, hb⟩ := List.exists_mem_of_ne_nil _ hne.2
  have hlt := h a (mem_tie.mp ha).1 b (mem_tie.mp hb).1
  rw [(mem_tie.mp ha).2, (mem_tie.mp hb).2] at hlt
  exact lt_irrefl k hlt

private theorem append_sorted {l m : List α} (hl : SortedBy key l) (hm : SortedBy key m)
    (h : ∀ a ∈ l, ∀ b ∈ m, key a < key b) : SortedBy key (l ++ m) :=
  List.pairwise_append.mpr ⟨hl, hm, fun a ha b hb => le_of_lt (h a ha b hb)⟩

/-- What comes after all of a sorted list goes to its end. -/
theorem sortBy_append_of_lt {l m : List α} (hl : SortedBy key l)
    (h : ∀ a ∈ l, ∀ b ∈ m, key a < key b) : sortBy key (l ++ m) = l ++ sortBy key m := by
  symm
  apply eq_sortBy
  · apply append_sorted hl (sortBy_sorted m)
    intro a ha b hb
    exact h a ha b ((sortBy_perm m).mem_iff.mp hb)
  · intro k
    rw [tie_append, tie_append, tie_sortBy]

/-- What comes before all of a sorted list goes to its start. -/
theorem sortBy_append_of_gt {l m : List α} (hl : SortedBy key l)
    (h : ∀ b ∈ m, ∀ a ∈ l, key b < key a) : sortBy key (l ++ m) = sortBy key m ++ l := by
  symm
  apply eq_sortBy
  · apply append_sorted (sortBy_sorted m) hl
    intro b hb a ha
    exact h b ((sortBy_perm m).mem_iff.mp hb) a ha
  · intro k
    rw [tie_append, tie_append, tie_sortBy]
    rcases tie_eq_nil_of_lt k h with hnil | hnil <;> simp [hnil]

end Transit.StableSort
