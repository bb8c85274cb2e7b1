import Transit.Proofs.Hafas.Client

/-! # Requests on the record

A backend that records what it is asked and what it answers answers as before, so the record of a
call is what the call has sent. What a call leaves on the record is put together from what its parts
leave there.
-/
namespace Transit.Hafas

variable {σ α β : Type}

/-- An address that was asked for, and the answer. -/
abbrev Exchange := Url × Answer

/-- Keeps a record of the exchanges, in order. -/
def Backend.recording (backend : Backend σ) : Backend (σ × List Exchange) := fun url (s, log) =>
  ((backend url s).1, (backend url s).2, log ++ [(url, (backend url s).1)])

theorem Backend.recording_eq {backend : Backend σ} {url : Url} {s s' : σ} {answer : Answer}
    (h : backend url s = (answer, s')) (log : List Exchange) :
    backend.recording url (s, log) = (answer, s', log ++ [(url, answer)]) := by
  rw [Backend.recording, h]

/-- The record makes no other difference, and what it gains and what comes out of the call are such
as `P` says. What is on the record before is left open, so that one call may follow another. -/
def Traces (P : List Exchange → α → Prop) (plain : StateM σ α)
    (recorded : StateM (σ × List Exchange) α) : Prop :=
  ∀ s log, ∃ exchanges, recorded (s, log) = ((plain s).1, (plain s).2, log ++ exchanges) ∧
    P exchanges (plain s).1

namespace Traces

variable {P : List Exchange → α → Prop} {Q : List Exchange → β → Prop}

theorem mono {P' : List Exchange → α → Prop} {plain : StateM σ α}
    {recorded : StateM (σ × List Exchange) α} (h : Traces P plain recorded)
    (hP : ∀ exchanges a, P exchanges a → P' exchanges a) : Traces P' plain recorded := by
  intro s log
  obtain ⟨exchanges, hrun, hexchanges⟩ := h s log
  exact ⟨exchanges, hrun, hP _ _ hexchanges⟩

/-- What a call has left on an empty record. -/
theorem of_run {plain : StateM σ α} {recorded : StateM (σ × List Exchange) α} {s s' : σ} {a : α}
    {log : List Exchange} (h : Traces P plain recorded)
    (hrun : recorded (s, []) = (a, s', log)) : P log a := by
  obtain ⟨exchanges, hrun', hP⟩ := h s []
  rw [hrun', List.nil_append] at hrun
  cases hrun
  exact hP

theorem of_return {a : α} (h : P [] a) : Traces P (pure a : StateM σ α) (pure a) :=
  fun s log => ⟨[], by rw [List.append_nil]; rfl, h⟩

theorem bind {m : StateM σ α} {m' : StateM (σ × List Exchange) α} {f : α → StateM σ β}
    {f' : α → StateM (σ × List Exchange) β} (h : Traces P m m')
    (hf : ∀ earlier a, P earlier a → Traces (fun later b => Q (earlier ++ later) b) (f a) (f' a)) :
    Traces Q (m >>= f) (m' >>= f') := by
  intro s log
  obtain ⟨earlier, hm, hP⟩ := h s log
  obtain ⟨later, hlater, hQ⟩ := hf earlier _ hP (m s).2 (log ++ earlier)
  have hrun : (m' >>= f') (s, log) = f' (m' (s, log)).1 (m' (s, log)).2 := rfl
  refine ⟨earlier ++ later, ?_, hQ⟩
  rw [hrun, hm, hlater, List.append_assoc]
  rfl

end Traces

namespace Fetched

/-- A call that may fail before another one follows it. -/
theorem traces_bind {P : List Exchange → Except Error α → Prop}
    {Q : List Exchange → Except Error β → Prop} {m : Fetched σ α}
    {m' : Fetched (σ × List Exchange) α} {f : α → Fetched σ β}
    {f' : α → Fetched (σ × List Exchange) β} (h : Traces P m m')
    (hfail : ∀ earlier e, P earlier (.error e) → Q earlier (.error e))
    (hf : ∀ earlier a, P earlier (.ok a) →
      Traces (fun later b => Q (earlier ++ later) b) (f a) (f' a)) :
    Traces Q (m >>= f : Fetched σ β) (m' >>= f' : Fetched (σ × List Exchange) β) := by
  change Traces Q (bind (m := StateM σ) m (ExceptT.bindCont f))
    (bind (m := StateM (σ × List Exchange)) m' (ExceptT.bindCont f'))
  refine Traces.bind h fun earlier outcome hP => ?_
  cases outcome with
  | error e => exact Traces.of_return (by rw [List.append_nil]; exact hfail earlier e hP)
  | ok a => exact hf earlier a hP

/-- A call whose failure is dealt with. -/
theorem traces_tryCatch {P Q : List Exchange → Except Error α → Prop} {m : Fetched σ α}
    {m' : Fetched (σ × List Exchange) α} {handle : Error → Fetched σ α}
    {handle' : Error → Fetched (σ × List Exchange) α} (h : Traces P m m')
    (hok : ∀ exchanges a, P exchanges (.ok a) → Q exchanges (.ok a))
    (hfail : ∀ earlier e, P earlier (.error e) →
      Traces (fun later b => Q (earlier ++ later) b) (handle e) (handle' e)) :
    Traces Q (tryCatch m handle : Fetched σ α)
      (tryCatch m' handle' : Fetched (σ × List Exchange) α) := by
  intro s log
  obtain ⟨earlier, hrun, hP⟩ := h s log
  rcases hplain : m s with ⟨outcome, t⟩
  rw [hplain] at hrun hP
  cases outcome with
  | error e =>
    obtain ⟨later, hlater, hQ⟩ := hfail earlier e hP t (log ++ earlier)
    rw [tryCatch_error hrun, tryCatch_error hplain]
    exact ⟨earlier ++ later, by rw [hlater, List.append_assoc], hQ⟩
  | ok a =>
    rw [tryCatch_ok hrun, tryCatch_ok hplain]
    exact ⟨earlier, rfl, hok earlier a hP⟩

/-- What comes out of a call is put into another form. -/
theorem traces_map {P : List Exchange → Except Error α → Prop}
    {Q : List Exchange → Except Error β → Prop} {m : Fetched σ α}
    {m' : Fetched (σ × List Exchange) α} {f : α → β} (h : Traces P m m')
    (hPQ : ∀ exchanges outcome, P exchanges outcome → Q exchanges (outcome.map f)) :
    Traces Q (do return f (← m) : Fetched σ β)
      (do return f (← m') : Fetched (σ × List Exchange) β) := by
  refine traces_bind h (fun earlier e hP => hPQ _ _ hP) fun earlier a hP => ?_
  exact Traces.of_return (by rw [List.append_nil]; exact hPQ _ _ hP)

end Fetched

namespace Client

/-- All that one request can come to: it has no place, and nothing is sent, or it is sent once and
its answer is read. -/
inductive Requests (c : Client) (segments : List String) (params : Params)
    (read : Answer → Except Error α) : List Exchange → Except Error α → Prop
  | misplaced {e : Error} (place : c.endpoint segments = .error e) :
    Requests c segments params read [] (.error e)
  | sent {url : Url} (place : c.endpoint segments = .ok url) (answer : Answer) :
    Requests c segments params read [(url.withParams params, answer)] (read answer)

theorem fetchAs_traces (c : Client) (backend : Backend σ) (read : Json → Option α)
    (segments : List String) (params : Params) :
    Traces (Requests c segments params (c.reading read)) (c.fetchAs backend read segments params)
      (c.fetchAs backend.recording read segments params) := by
  intro s log
  cases hplace : c.endpoint segments with
  | error e =>
    rw [fetchAs_misplaced hplace, fetchAs_misplaced hplace]
    exact ⟨[], by rw [List.append_nil], .misplaced hplace⟩
  | ok url =>
    rw [fetchAs_sent hplace, fetchAs_sent hplace]
    exact ⟨_, rfl, .sent hplace _⟩

/-- A request whose answer is put into another form once it has been read. -/
theorem fetchAs_map_traces (c : Client) (backend : Backend σ) (read : Json → Option α)
    (f : Url × α → β) (segments : List String) (params : Params) :
    Traces (Requests c segments params fun answer => (c.reading read answer).map f)
      (do return f (← c.fetchAs backend read segments params) : Fetched σ β)
      (do return f (← c.fetchAs backend.recording read segments params) :
        Fetched (σ × List Exchange) β) := by
  refine Fetched.traces_map (fetchAs_traces c backend read segments params) ?_
  intro exchanges outcome h
  cases h with
  | misplaced place => exact .misplaced place
  | sent place answer => exact .sent place answer

end Client

end Transit.Hafas
