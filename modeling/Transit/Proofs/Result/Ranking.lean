import Transit.Proofs.Distinct
import Transit.Proofs.Sameness
import Transit.Proofs.StableSort
import Transit.Result.Locations

/-! # The order of suggestions

A result lists each suggested location once, as it was suggested first, by falling priority and
otherwise in the order of the suggestions. Where the priorities fall from the start, nothing is
moved.
-/
namespace Transit.SuggestResult

open StableSort (SortedBy sortBy sortBy_perm sortBy_sorted tie tie_sortBy sortBy_eq_self)

variable {suggestions : List SuggestedLocation}

/-- Suggestions are told apart by their locations alone. -/
@[reducible] def byLocation : BEq SuggestedLocation := ⟨fun a b => a.location == b.location⟩

/-- Each location once, as it was suggested first. -/
def firsts (suggestions : List SuggestedLocation) : List SuggestedLocation :=
  suggestions.eraseDupsBy fun a b => a.location == b.location

/-- A list has the first suggestions of others, by falling priority, and those of one priority in
their order. -/
structure Ranks (suggestions ranked : List SuggestedLocation) : Prop where
  perm : ranked.Perm (firsts suggestions)
  falling : ranked.Pairwise fun a b => b.priority ≤ a.priority
  stable : ∀ p : Int32,
    ranked.filter (·.priority = p) = (firsts suggestions).filter (·.priority = p)

/-- The key to sort by: the higher the priority, the smaller. -/
def rank (s : SuggestedLocation) : Intᵒᵈ := OrderDual.toDual s.priority.toInt

theorem rank_le_iff {a b : SuggestedLocation} : rank a ≤ rank b ↔ b.priority ≤ a.priority :=
  Int32.le_iff_toInt_le.symm

theorem rank_eq_iff {s : SuggestedLocation} {p : Int32} :
    rank s = OrderDual.toDual p.toInt ↔ s.priority = p := Int32.toInt_inj

theorem firsts_eq_distinct (suggestions : List SuggestedLocation) :
    firsts suggestions = @distinct _ byLocation suggestions :=
  (@distinct_eq_eraseDups _ byLocation suggestions).symm

theorem firsts_sublist (suggestions : List SuggestedLocation) :
    (firsts suggestions).Sublist suggestions := by
  rw [firsts_eq_distinct]
  exact @distinct_sublist _ byLocation suggestions

theorem map_firsts (suggestions : List SuggestedLocation) :
    (firsts suggestions).map (·.location) = (suggestions.map (·.location)).eraseDups := by
  rw [firsts_eq_distinct, ← distinct_eq_eraseDups]
  exact @map_distinct _ byLocation _ _ (·.location) (fun _ _ => rfl) suggestions

theorem uniqueFrom_eq (known suggestions : List SuggestedLocation) :
    uniqueFrom known suggestions = @addNew _ byLocation known suggestions := by
  let _ := byLocation
  induction suggestions generalizing known with
  | nil => rfl
  | cons s rest ih =>
    have hknown : known.any (·.location == s.location) = known.contains s := by
      rw [List.contains_eq_any_beq]
      congr 1
      funext t
      exact BEq.comm
    rw [uniqueFrom, addNew, hknown, ih, ih]

theorem ranked_eq (suggestions : List SuggestedLocation) :
    ranked suggestions = sortBy rank (firsts suggestions) := by
  rw [ranked, uniqueFrom_eq, firsts_eq_distinct, sortBy]
  congr 1
  funext a b
  exact decide_eq_decide.mpr rank_le_iff.symm

theorem ranks_ranked (suggestions : List SuggestedLocation) :
    Ranks suggestions (ranked suggestions) := by
  rw [ranked_eq]
  have hsorted : SortedBy rank (sortBy rank (firsts suggestions)) := sortBy_sorted _
  refine ⟨sortBy_perm _, hsorted.imp fun h => rank_le_iff.mp h, fun p => ?_⟩
  have htie : tie rank (OrderDual.toDual p.toInt) (sortBy rank (firsts suggestions)) =
      tie rank (OrderDual.toDual p.toInt) (firsts suggestions) := tie_sortBy _ _
  simpa only [tie, rank_eq_iff] using htie

/-- Suggestions of falling priorities are only freed of repetitions. -/
theorem ranked_of_falling (h : suggestions.Pairwise fun a b => b.priority < a.priority) :
    ranked suggestions = firsts suggestions := by
  have hsorted : SortedBy rank (firsts suggestions) :=
    (h.sublist (firsts_sublist suggestions)).imp fun hlt => rank_le_iff.mpr (Int32.le_of_lt hlt)
  rw [ranked_eq, sortBy_eq_self hsorted]

end Transit.SuggestResult
