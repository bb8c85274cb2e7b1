import Transit.Trip

/-! # Adding what is new

`addNew` puts the novel elements of a list behind the known ones. Which elements are novel depends
on the known ones only through membership, and from nothing known they are the first occurrences.
-/
namespace Transit

variable {α : Type} [BEq α]

/-- The elements that equal none before them, known ones included. -/
def novel (known : List α) : List α → List α
  | [] => []
  | a :: rest => if known.contains a then novel known rest else a :: novel (known ++ [a]) rest

theorem addNew_eq (known page : List α) : addNew known page = known ++ novel known page := by
  induction page generalizing known with
  | nil => simp [addNew, novel]
  | cons a rest ih =>
    rw [addNew, novel]
    split
    · exact ih known
    · simp [ih]

theorem addNew_append (known l m : List α) :
    addNew known (l ++ m) = addNew (addNew known l) m := by
  induction l generalizing known with
  | nil => rfl
  | cons a l ih =>
    simp only [List.cons_append, addNew]
    split <;> exact ih _

theorem novel_congr {known other : List α} (page : List α)
    (h : ∀ a, known.contains a = other.contains a) : novel known page = novel other page := by
  induction page generalizing known other with
  | nil => rfl
  | cons a rest ih =>
    have hnext : ∀ b, (known ++ [a]).contains b = (other ++ [a]).contains b := by
      intro b
      rw [List.contains_append, List.contains_append, h]
    rw [novel, novel, h a, ih h, ih hnext]

/-- Known elements that equal none of a page make no difference to it. -/
theorem novel_of_disjoint {known : List α} (before page : List α)
    (h : ∀ a ∈ page, known.contains a = false) :
    novel (known ++ before) page = novel before page := by
  induction page generalizing before with
  | nil => rfl
  | cons a rest ih =>
    have hrest : ∀ b ∈ rest, known.contains b = false := fun b hb => h b (by simp [hb])
    have ha : known.contains a = false := h a (by simp)
    rw [novel, novel, List.contains_append, ha, Bool.false_or, ih before hrest, List.append_assoc,
      ih (before ++ [a]) hrest]

theorem addNew_of_disjoint {known page : List α} (h : ∀ a ∈ page, known.contains a = false) :
    addNew known page = known ++ distinct page := by
  have hnovel := novel_of_disjoint [] page h
  rw [List.append_nil] at hnovel
  rw [addNew_eq, hnovel, distinct, addNew_eq, List.nil_append]

theorem distinct_eq_nil {as : List α} : distinct as = [] ↔ as = [] := by
  constructor
  · intro h
    cases as with
    | nil => rfl
    | cons a rest =>
      rw [distinct, addNew, if_neg (by simp), addNew_eq] at h
      cases h
  · rintro rfl
    rfl

private theorem eraseDups_loop (page seen : List α) :
    List.eraseDupsBy.loop (· == ·) page seen = addNew seen.reverse page := by
  induction page generalizing seen with
  | nil => rfl
  | cons a rest ih =>
    rw [List.eraseDupsBy.loop, addNew, List.contains_reverse, List.contains_eq_any_beq]
    cases hseen : seen.any (a == ·) with
    | true => simpa using ih seen
    | false => simpa using ih (a :: seen)

/-- Each element once, where it occurs first. -/
theorem distinct_eq_eraseDups (page : List α) : distinct page = page.eraseDups :=
  (eraseDups_loop page []).symm

theorem novel_sublist (known page : List α) : (novel known page).Sublist page := by
  induction page generalizing known with
  | nil => exact List.Sublist.slnil
  | cons a rest ih =>
    rw [novel]
    split
    · exact (ih known).cons a
    · exact (ih _).cons_cons a

theorem distinct_sublist (page : List α) : (distinct page).Sublist page := by
  rw [distinct, addNew_eq, List.nil_append]
  exact novel_sublist [] page

theorem mem_addNew {known page : List α} {a : α} (h : a ∈ addNew known page) :
    a ∈ known ∨ a ∈ page := by
  rw [addNew_eq, List.mem_append] at h
  exact h.imp_right fun hnovel => (novel_sublist known page).mem hnovel

/-- Nothing of the page is missing, up to sameness. -/
theorem contains_addNew [ReflBEq α] {known page : List α} {a : α} (h : a ∈ known ∨ a ∈ page) :
    (addNew known page).contains a = true := by
  induction page generalizing known with
  | nil =>
    have ha : a ∈ known := by simpa using h
    exact List.contains_iff_exists_mem_beq.mpr ⟨a, ha, BEq.rfl⟩
  | cons b rest ih =>
    rw [addNew]
    split
    · rename_i hb
      rcases h with hk | hp
      · exact ih (.inl hk)
      · rcases List.mem_cons.mp hp with rfl | hrest
        · rw [addNew_eq, List.contains_append, hb, Bool.true_or]
        · exact ih (.inr hrest)
    · apply ih
      rw [List.mem_append, List.mem_singleton]
      rcases h with hk | hp
      · exact .inl (.inl hk)
      · exact (List.mem_cons.mp hp).imp .inr id

/-- An element that equals one before it makes no difference. -/
theorem distinct_insert [EquivBEq α] {as : List α} {a : α} (h : as.contains a = true)
    (bs : List α) : distinct (as ++ a :: bs) = distinct (as ++ bs) := by
  obtain ⟨b, hb, hsame⟩ := List.contains_iff_exists_mem_beq.mp h
  have hknown : (addNew [] as).contains a = true := by
    rw [List.contains_congr hsame]
    exact contains_addNew (.inr hb)
  rw [distinct, distinct, addNew_append, addNew_append, addNew, if_pos hknown]

/-- What tells elements apart in the same way has the same first occurrences. -/
theorem map_addNew {β : Type} [BEq β] {f : α → β} (hf : ∀ a b : α, (a == b) = (f a == f b))
    (known page : List α) : (addNew known page).map f = addNew (known.map f) (page.map f) := by
  have hcontains : ∀ (known : List α) a, (known.map f).contains (f a) = known.contains a := by
    intro known a
    rw [List.contains_eq_any_beq, List.contains_eq_any_beq, List.any_map]
    simp only [Function.comp_def, hf]
  induction page generalizing known with
  | nil => rfl
  | cons a rest ih =>
    rw [addNew, List.map_cons, addNew, hcontains]
    split
    · exact ih known
    · rw [ih, List.map_append, List.map_singleton]

theorem map_distinct {β : Type} [BEq β] {f : α → β} (hf : ∀ a b : α, (a == b) = (f a == f b))
    (page : List α) : (distinct page).map f = distinct (page.map f) :=
  map_addNew hf [] page

abbrev PairwiseDistinct (as : List α) : Prop := as.Pairwise fun a b => (a == b) = false

theorem addNew_pairwise [PartialEquivBEq α] {known : List α} (page : List α)
    (h : PairwiseDistinct known) : PairwiseDistinct (addNew known page) := by
  induction page generalizing known with
  | nil => exact h
  | cons a rest ih =>
    rw [addNew]
    split
    · exact ih h
    · rename_i hnew
      apply ih
      rw [PairwiseDistinct, List.pairwise_append]
      refine ⟨h, List.pairwise_singleton .., ?_⟩
      intro b hb c hc
      obtain rfl := List.mem_singleton.mp hc
      rw [Bool.eq_false_iff]
      intro hsame
      exact hnew (List.contains_iff_exists_mem_beq.mpr ⟨b, hb, BEq.symm hsame⟩)

theorem novel_eq_self [PartialEquivBEq α] {known page : List α} (h : PairwiseDistinct page)
    (hnew : ∀ a ∈ page, known.contains a = false) : novel known page = page := by
  induction page generalizing known with
  | nil => rfl
  | cons a rest ih =>
    obtain ⟨ha, hrest⟩ := List.pairwise_cons.mp h
    have hnext : ∀ b ∈ rest, (known ++ [a]).contains b = false := by
      intro b hb
      rw [List.contains_append, hnew b (.tail _ hb), Bool.false_or, List.contains_cons, BEq.comm,
        ha b hb]
      rfl
    rw [novel, if_neg (by rw [hnew a (.head _)]; exact nofun), ih hrest hnext]

/-- Nothing is left out of a list without repetitions. -/
theorem distinct_eq_self [PartialEquivBEq α] {page : List α} (h : PairwiseDistinct page) :
    distinct page = page := by
  rw [distinct, addNew_eq, List.nil_append]
  exact novel_eq_self h fun _ _ => rfl

theorem distinct_pairwise [PartialEquivBEq α] (page : List α) : PairwiseDistinct (distinct page) :=
  addNew_pairwise page .nil

theorem nodup_distinct [LawfulBEq α] (page : List α) : (distinct page).Nodup :=
  (distinct_pairwise page).imp fun h => beq_eq_false_iff_ne.mp h

theorem mem_distinct [LawfulBEq α] {page : List α} {a : α} : a ∈ distinct page ↔ a ∈ page := by
  rw [distinct_eq_eraseDups, List.mem_eraseDups]

end Transit
