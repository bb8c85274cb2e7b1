import Transit.Hafas.Client
import Transit.Proofs.Json.Record

/-! # Requests of a client

What a request comes to in a state of the backend, and what it comes to when the backend answers
each address always in the same way.
-/
namespace Transit.Hafas

variable {σ α β : Type}

namespace Fetched

variable {m : Fetched σ α} {f : α → Fetched σ β} {a : α} {s t : σ}

theorem bind_ok (h : m s = (.ok a, t)) : (m >>= f) s = f a t := by
  have heq : (m >>= f) s = ExceptT.bindCont f (m s).1 (m s).2 := rfl
  rw [heq, h]
  rfl

theorem bind_error {e : Error} (h : m s = (.error e, t)) : (m >>= f) s = (.error e, t) := by
  have heq : (m >>= f) s = ExceptT.bindCont f (m s).1 (m s).2 := rfl
  rw [heq, h]
  rfl

theorem tryCatch_ok {handle : Error → Fetched σ α} (h : m s = (.ok a, t)) :
    (tryCatch m handle : Fetched σ α) s = (.ok a, t) := by
  simp only [tryCatch, tryCatchThe, MonadExceptOf.tryCatch, ExceptT.tryCatch, ExceptT.mk, bind,
    StateT.bind, h]
  rfl

theorem tryCatch_error {handle : Error → Fetched σ α} {e : Error} (h : m s = (.error e, t)) :
    (tryCatch m handle : Fetched σ α) s = handle e t := by
  simp only [tryCatch, tryCatchThe, MonadExceptOf.tryCatch, ExceptT.tryCatch, ExceptT.mk, bind,
    StateT.bind, h]

theorem bind_eq_ok {b : β} (h : (m >>= f) s = (.ok b, t)) :
    ∃ a t', m s = (.ok a, t') ∧ f a t' = (.ok b, t) := by
  rcases hm : m s with ⟨a, t'⟩
  cases a with
  | error e =>
    rw [bind_error hm] at h
    cases h
  | ok a =>
    rw [bind_ok hm] at h
    exact ⟨a, t', rfl, h⟩

end Fetched

/-- What is answered to a request depends on nothing but its address. -/
def Backend.AnswersBy (backend : Backend σ) (answer : Url → Answer) : Prop :=
  ∀ url s, (backend url s).1 = answer url

namespace Client

/-- What a client reads from an answer, and where it came from. -/
def reading (c : Client) (read : Json → Option α) (answer : Answer) : Except Error (Url × α) := do
  let (address, body) ← answer.body c.config c.triage
  return (address, ← readBody read body)

/-- What a client reads from the answer to a request. -/
def answerTo (c : Client) (answer : Url → Answer) (read : Json → Option α)
    (segments : List String) (params : Params) : Except Error (Url × α) := do
  let url ← c.endpoint segments
  c.reading read (answer (url.withParams params))

variable {c : Client} {backend : Backend σ} {answer : Url → Answer} {segments : List String}

theorem fetch_misplaced {e : Error} (h : c.endpoint segments = .error e) (params : Params) (s : σ) :
    c.fetch backend segments params s = (.error e, s) := by
  rw [fetch, h]
  rfl

theorem fetch_sent {url : Url} (h : c.endpoint segments = .ok url) (params : Params) (s : σ) :
    c.fetch backend segments params s =
      ((backend (url.withParams params) s).1.body c.config c.triage,
        (backend (url.withParams params) s).2) := by
  rw [fetch, h]
  rfl

/-- Without a place for the request, none is sent. -/
theorem fetchAs_misplaced {e : Error} (h : c.endpoint segments = .error e)
    (read : Json → Option α) (params : Params) (s : σ) :
    c.fetchAs backend read segments params s = (.error e, s) := by
  rw [fetchAs, Fetched.bind_error (fetch_misplaced h params s)]

/-- One request is sent, and its answer is read. -/
theorem fetchAs_sent {url : Url} (h : c.endpoint segments = .ok url) (read : Json → Option α)
    (params : Params) (s : σ) :
    c.fetchAs backend read segments params s =
      (c.reading read (backend (url.withParams params) s).1,
        (backend (url.withParams params) s).2) := by
  have hsent := @fetch_sent _ c backend _ _ h params s
  rw [fetchAs, reading]
  cases hbody : (backend (url.withParams params) s).1.body c.config c.triage with
  | error e =>
    rw [hbody] at hsent
    rw [Fetched.bind_error hsent]
    rfl
  | ok found =>
    rw [hbody] at hsent
    rw [Fetched.bind_ok hsent]
    change _ = (readBody read found.2 >>= _, _)
    cases hread : readBody read found.2 <;> simp only [hread] <;> rfl

/-- All that an answer can come to. A limit on the rate comes before the body, and a page before the
status. -/
inductive Taken (c : Client) (read : Json → Option α) : Answer → Except Error (Url × α) → Prop
  | timedOut : Taken c read .timedOut (.error (.timeout c.config.timeoutSecs))
  | unreachable (message : String) :
    Taken c read (.unreachable message) (.error (.connectionFailed message))
  | limited {retryAfter body : Option String} {address : Url} :
    Taken c read (.response 429 retryAfter address body)
      (.error (.rateLimit (retryAfter.bind (Text.natBelow? (twoTo 64)))))
  | brokenOff {status : Nat} {retryAfter : Option String} {address : Url}
    (unlimited : status ≠ 429) :
    Taken c read (.response status retryAfter address none) (.error (.parse "the body broke off"))
  | page {status : Nat} {retryAfter : Option String} {address : Url} {body : String}
    {page : ResponseClass} (unlimited : status ≠ 429)
    (triaged : pageClass c.triage address body = page) (strange : page ≠ .normal) :
    Taken c read (.response status retryAfter address (some body)) (.error (.triage page))
  | refused {status : Nat} {retryAfter : Option String} {address : Url} {body : String}
    (unlimited : status ≠ 429) (usual : pageClass c.triage address body = .normal)
    (bad : isSuccess status = false) :
    Taken c read (.response status retryAfter address (some body))
      (.error (backendError status body))
  | unreadable {status : Nat} {retryAfter : Option String} {address : Url} {body : String}
    (usual : pageClass c.triage address body = .normal) (good : isSuccess status = true)
    (unread : (Json.ofText? body).bind read = none) :
    Taken c read (.response status retryAfter address (some body))
      (.error (.parse "the body cannot be read"))
  | good {status : Nat} {retryAfter : Option String} {address : Url} {body : String} {a : α}
    (usual : pageClass c.triage address body = .normal) (good : isSuccess status = true)
    (fits : (Json.ofText? body).bind read = some a) :
    Taken c read (.response status retryAfter address (some body)) (.ok (address, a))

theorem reading_taken (c : Client) (read : Json → Option α) (answer : Answer) :
    Taken c read answer (c.reading read answer) := by
  rw [reading]
  cases answer with
  | timedOut => exact .timedOut
  | unreachable message => exact .unreachable message
  | response status retryAfter address body =>
    rw [Answer.body.eq_def]
    dsimp only
    by_cases hlimit : status = 429
    · subst hlimit
      exact .limited
    · rw [if_neg hlimit]
      cases body with
      | none => exact .brokenOff hlimit
      | some body =>
        dsimp only
        cases hpage : pageClass c.triage address body with
        | normal =>
          dsimp only
          by_cases hgood : isSuccess status
          · rw [if_pos hgood]
            change Taken c read _ (readBody read body >>= _)
            rw [readBody]
            cases hread : (Json.ofText? body).bind read with
            | none => exact .unreadable hpage hgood hread
            | some a => exact .good hpage hgood hread
          · rw [if_neg hgood]
            exact .refused hlimit hpage (by simpa using hgood)
        | redirect url => exact .page hlimit hpage nofun
        | sessionExpired => exact .page hlimit hpage nofun
        | internalError => exact .page hlimit hpage nofun

theorem looksLikeData_compact (fields : List (String × Json)) :
    looksLikeData (Json.obj fields).compact = true := by
  rw [looksLikeData, Json.compact, String.toList_ofList]
  cases fields with
  | nil => rfl
  | cons field rest =>
    rw [Json.chars]
    rfl

/-- A good answer in data is read as it was written. -/
theorem reading_compact (c : Client) (read : Json → Option α) {fields : List (String × Json)}
    {a : α} (hplain : (Json.obj fields).isPlain 0 = true) (hread : read (.obj fields) = some a)
    (address : Url) :
    c.reading read (.response 200 none address (some (Json.obj fields).compact)) =
      .ok (address, a) := by
  have hclass : pageClass c.triage address (Json.obj fields).compact = .normal := by
    rw [pageClass, looksLikeData_compact]
    rfl
  have hbody : (Answer.response 200 none address (some (Json.obj fields).compact)).body c.config
      c.triage = .ok (address, (Json.obj fields).compact) := by
    rw [Answer.body.eq_def]
    dsimp only
    simp only [hclass]
    rfl
  rw [reading, hbody]
  change (readBody read (Json.obj fields).compact >>= _) = _
  rw [readBody, Json.ofText_compact hplain, Option.bind_some, hread]
  rfl

theorem fetchAs_answersBy (h : backend.AnswersBy answer) (read : Json → Option α)
    (segments : List String) (params : Params) (s : σ) :
    (c.fetchAs backend read segments params s).1 = c.answerTo answer read segments params := by
  rw [answerTo]
  cases hurl : c.endpoint segments with
  | error e =>
    rw [fetchAs_misplaced hurl]
    rfl
  | ok url =>
    rw [fetchAs_sent hurl, h]
    rfl

end Client

end Transit.Hafas
