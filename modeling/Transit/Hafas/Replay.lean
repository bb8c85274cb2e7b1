import Transit.Hafas.Answer
import Transit.Json.Reader
/-! Backends that answer from a record, one answer for each request. -/
namespace Transit.Hafas

/-- An answer without a final address comes from the address that was asked. -/
structure Recorded where
  status : Nat
  retryAfter : Option String
  address : Option String
  body : String

namespace Recorded

def ofJson? (j : Json) : Option Recorded := do
  let r ← j.record? ["status", "retry_after", "url", "body"]
  some {
    status := ← r.defaulted "status" 200 Json.count?
    retryAfter := ← r.omissible "retry_after" Json.string?
    address := ← r.omissible "url" Json.string?
    body := ← r.required "body" Json.string? }

def toAnswer (r : Recorded) (requested : Url) : Answer :=
  .response r.status r.retryAfter ((r.address.bind Url.ofText?).getD requested) (some r.body)

end Recorded

/-- The answers that are left, and the requests so far, the latest first. A record that cannot be
read stands for a failed request. -/
structure Replay where
  answers : List (Option Recorded)
  requests : List Url := []

namespace Replay

def ofLines (lines : List String) : Replay :=
  { answers := (lines.filter (!Text.isBlankText ·)).map fun line =>
      (Json.ofText? line).bind Recorded.ofJson? }

def answer (requested : Url) : Option Recorded → Answer
  | some r => r.toAnswer requested
  | none => .unreachable "unreadable record"

def backend : Backend Replay := fun url => do
  match (← get).answers with
  | [] =>
    modify fun s => { s with requests := url :: s.requests }
    return .unreachable "no record left"
  | a :: rest =>
    modify fun s => { answers := rest, requests := url :: s.requests }
    return answer url a

end Transit.Hafas.Replay
