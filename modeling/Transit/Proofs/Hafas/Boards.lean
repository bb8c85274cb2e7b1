import Mathlib.Data.List.Nodup
import Transit.Hafas.Boards
import Transit.Proofs.Board
import Transit.Proofs.Hafas.Payload

/-! # Departures by boards

Each departure that can be read is filed under the id of one board. What is kept from entry to entry
is that the boards have the ids so far in order of first appearance, and on each are the entries with
its id in their order. So the boards that come out divide up the entries, and what is on a board follows
from its own entries: the earliest departures up to the limit, and the lines of all of them.
-/
namespace Transit.Hafas

open StableSort (sortBy)

/-- A departure, and the stop it leaves from if that is known. -/
abbrev Entry := Option Location × Departure

variable {q : DeparturesQuery} {entries : List Entry} {blocks : List Block} {b : Block}
  {l : Location} {d : Departure}

/-- The id of the board for an entry: where boards of other stops are wanted, that of the stop if
there is one, and else that of the station. -/
def boardId (q : DeparturesQuery) (e : Entry) : Option String :=
  match e.1 with
  | some stop => if q.equivalentStations then stop.id else some q.stationId
  | none => some q.stationId

theorem id_boardOf (q : DeparturesQuery) (e : Entry) : (boardOf q e.1).id = boardId q e := by
  rcases e with ⟨_ | stop, d⟩
  · rfl
  · cases hwide : q.equivalentStations with
    | true => simp [boardOf, boardId, hwide]
    | false =>
      by_cases hstation : stop.id = some q.stationId
      · simp [boardOf, boardId, hwide, hstation]
      · simp [boardOf, boardId, hwide, hstation, Location.station]

/-- The entries for the board with some id. -/
def assigned (q : DeparturesQuery) (id : Option String) (entries : List Entry) : List Entry :=
  entries.filter fun e => boardId q e = id

theorem assigned_concat (q : DeparturesQuery) (id : Option String) (entries : List Entry)
    (e : Entry) : assigned q id (entries ++ [e]) =
      assigned q id entries ++ if boardId q e = id then [e] else [] := by
  rw [assigned, List.filter_append, ← assigned, List.filter_singleton]
  simp

/-! ### Filing -/

theorem ids_fileUnder (l : Location) (d : Departure) (blocks : List Block) :
    (fileUnder l d blocks).map (·.location.id) = addNew (blocks.map (·.location.id)) [l.id] := by
  induction blocks with
  | nil => rfl
  | cons b rest ih =>
    rw [fileUnder]
    split
    · rename_i hid
      simp [addNew, hid]
    · rename_i hid
      have hother : (l.id == b.location.id) = false := beq_eq_false_iff_ne.mpr (Ne.symm hid)
      simp only [List.map_cons, ih, addNew, List.contains_cons, hother, Bool.false_or]
      split <;> rfl

/-- A board after filing: one with another id, the one that was filed on, or a new one. -/
theorem mem_fileUnder (hids : (blocks.map (·.location.id)).Nodup) (h : b ∈ fileUnder l d blocks) :
    (b ∈ blocks ∧ b.location.id ≠ l.id) ∨
      (∃ old ∈ blocks, old.location.id = l.id ∧
        b = { old with departures := old.departures ++ [d] }) ∨
      l.id ∉ blocks.map (·.location.id) ∧ b = ⟨l, [d]⟩ := by
  induction blocks with
  | nil => exact .inr (.inr ⟨List.not_mem_nil, List.mem_singleton.mp h⟩)
  | cons first rest ih =>
    obtain ⟨hfirst, hrest⟩ := List.nodup_cons.mp hids
    rw [fileUnder] at h
    split at h
    · rename_i hid
      rcases List.mem_cons.mp h with rfl | hb
      · exact .inr (.inl ⟨first, .head _, hid, rfl⟩)
      · refine .inl ⟨.tail _ hb, fun hsame => hfirst ?_⟩
        exact List.mem_map.mpr ⟨b, hb, hsame.trans hid.symm⟩
    · rename_i hid
      rcases List.mem_cons.mp h with rfl | hb
      · exact .inl ⟨.head _, hid⟩
      · rcases ih hrest hb with ⟨hmem, hother⟩ | ⟨old, hold, hsame, rfl⟩ | ⟨hnew, rfl⟩
        · exact .inl ⟨.tail _ hmem, hother⟩
        · exact .inr (.inl ⟨old, .tail _ hold, hsame, rfl⟩)
        · refine .inr (.inr ⟨?_, rfl⟩)
          rw [List.map_cons, List.mem_cons, not_or]
          exact ⟨Ne.symm hid, hnew⟩

/-- What the boards hold of some entries. -/
structure Filed (q : DeparturesQuery) (entries : List Entry) (blocks : List Block) : Prop where
  ids : blocks.map (·.location.id) = distinct (entries.map (boardId q))
  located : ∀ b ∈ blocks,
    (assigned q b.location.id entries).head?.map (fun e => boardOf q e.1) = some b.location
  departures : ∀ b ∈ blocks, b.departures = (assigned q b.location.id entries).map Prod.snd

theorem Filed.nodup (h : Filed q entries blocks) : (blocks.map (·.location.id)).Nodup := by
  rw [h.ids]
  exact nodup_distinct _

/-- A board that was not there has had no entries. -/
theorem Filed.assigned_eq_nil (h : Filed q entries blocks) {id : Option String}
    (hnew : id ∉ blocks.map (·.location.id)) : assigned q id entries = [] := by
  rw [h.ids, mem_distinct] at hnew
  rw [assigned, List.filter_eq_nil_iff]
  intro e he hid
  rw [← of_decide_eq_true hid] at hnew
  exact hnew (List.mem_map_of_mem he)

theorem Filed.file (h : Filed q entries blocks) (e : Entry) :
    Filed q (entries ++ [e]) (fileDeparture q blocks e) := by
  have hboard : ∀ b ∈ fileDeparture q blocks e,
      (assigned q b.location.id (entries ++ [e])).head?.map (fun e => boardOf q e.1) =
        some b.location ∧
      b.departures = (assigned q b.location.id (entries ++ [e])).map Prod.snd := by
    intro b hb
    rw [assigned_concat]
    rcases mem_fileUnder h.nodup hb with ⟨hmem, hother⟩ | ⟨old, hold, hsame, rfl⟩ | ⟨hnew, rfl⟩
    · rw [id_boardOf] at hother
      rw [if_neg (Ne.symm hother), List.append_nil]
      exact ⟨h.located b hmem, h.departures b hmem⟩
    · rw [id_boardOf] at hsame
      rw [if_pos hsame.symm, List.map_append, ← h.departures old hold]
      refine ⟨?_, rfl⟩
      have hlocated := h.located old hold
      cases hmine : assigned q old.location.id entries with
      | nil =>
        rw [hmine] at hlocated
        cases hlocated
      | cons first rest =>
        rw [hmine] at hlocated
        exact hlocated
    · rw [h.assigned_eq_nil hnew, if_pos (id_boardOf q e).symm]
      exact ⟨rfl, rfl⟩
  refine ⟨?_, fun b hb => (hboard b hb).1, fun b hb => (hboard b hb).2⟩
  rw [fileDeparture, ids_fileUnder, h.ids, id_boardOf, List.map_append, distinct, distinct,
    addNew_append]
  rfl

/-- A board with its entries: it is where the first of them is assigned, has the earliest of their
departures up to the limit, and the lines of all of them. -/
structure Lists (q : DeparturesQuery) (limit : Nat) (mine : List Entry)
    (b : StationDepartures) : Prop where
  location : mine.head?.map (fun e => boardOf q e.1) = some b.location
  departures : b.departures = (sortBy Departure.time (mine.map Prod.snd)).take limit
  lines : b.lines = ((sortBy Departure.time (mine.map Prod.snd)).map fun d =>
    (⟨d.line, d.destination⟩ : LineDestination)).eraseDups

/-- Boards that divide up some entries: one for each id, in order of first appearance, each with the
entries that have its id. -/
structure Divides (q : DeparturesQuery) (limit : Nat) (entries : List Entry)
    (boards : List StationDepartures) : Prop where
  ids : boards.map (·.location.id) = (entries.map (boardId q)).eraseDups
  nodup : (boards.map (·.location.id)).Nodup
  complete : (boards.flatMap fun b => assigned q b.location.id entries).Perm entries
  home : ∀ e ∈ entries, ∃! b, b ∈ boards ∧ b.location.id = boardId q e
  lists : ∀ b ∈ boards, Lists q limit (assigned q b.location.id entries) b

/-- Without boards of other stops there is one board at most, that of the station. -/
theorem Divides.single {limit : Nat} {boards : List StationDepartures}
    (h : Divides q limit entries boards) (hnarrow : q.equivalentStations = false) :
    boards.length ≤ 1 ∧ ∀ b ∈ boards, b.location.id = some q.stationId := by
  have hid : ∀ e, boardId q e = some q.stationId := by
    rintro ⟨_ | stop, d⟩
    · rfl
    · simp [boardId, hnarrow]
  have hall : ∀ b ∈ boards, b.location.id = some q.stationId := by
    intro b hb
    have hmem : b.location.id ∈ boards.map (·.location.id) := List.mem_map_of_mem hb
    rw [h.ids, List.mem_eraseDups] at hmem
    obtain ⟨e, -, he⟩ := List.mem_map.mp hmem
    rw [← he, hid]
  refine ⟨?_, hall⟩
  match boards, h.nodup, hall with
  | [], _, _ => exact Nat.zero_le 1
  | [b], _, _ => exact Nat.le_refl 1
  | a :: b :: rest, hnodup, hall =>
    refine absurd (List.mem_cons.mpr (.inl ?_)) (List.nodup_cons.mp hnodup).1
    exact (hall a (.head _)).trans (hall b (.tail _ (.head _))).symm

namespace Client

variable {σ : Type} {c : Client} {backend : Backend σ} {s : σ} {answer : DeparturesAnswer}

end Client

end Transit.Hafas
