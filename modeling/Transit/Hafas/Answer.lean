import Transit.Hafas.Config
import Transit.Hafas.Error
import Transit.Hafas.Record
/-! What comes back from a backend, and whether it is an answer or a failure. -/
namespace Transit.Hafas

/-- The address of a response is the one it finally came from; the body may break off. -/
inductive Answer
  | timedOut
  | unreachable (message : String)
  | response (status : Nat) (retryAfter : Option String) (address : Url) (body : Option String)

/-- Answers requests, from some state. -/
abbrev Backend (σ : Type) := Url → StateM σ Answer

/-- The usual phrase for an HTTP status. -/
def reason? : Nat → Option String
  | 100 => some "Continue"
  | 101 => some "Switching Protocols"
  | 102 => some "Processing"
  | 103 => some "Early Hints"
  | 200 => some "OK"
  | 201 => some "Created"
  | 202 => some "Accepted"
  | 203 => some "Non Authoritative Information"
  | 204 => some "No Content"
  | 205 => some "Reset Content"
  | 206 => some "Partial Content"
  | 207 => some "Multi-Status"
  | 208 => some "Already Reported"
  | 226 => some "IM Used"
  | 300 => some "Multiple Choices"
  | 301 => some "Moved Permanently"
  | 302 => some "Found"
  | 303 => some "See Other"
  | 304 => some "Not Modified"
  | 305 => some "Use Proxy"
  | 307 => some "Temporary Redirect"
  | 308 => some "Permanent Redirect"
  | 400 => some "Bad Request"
  | 401 => some "Unauthorized"
  | 402 => some "Payment Required"
  | 403 => some "Forbidden"
  | 404 => some "Not Found"
  | 405 => some "Method Not Allowed"
  | 406 => some "Not Acceptable"
  | 407 => some "Proxy Authentication Required"
  | 408 => some "Request Timeout"
  | 409 => some "Conflict"
  | 410 => some "Gone"
  | 411 => some "Length Required"
  | 412 => some "Precondition Failed"
  | 413 => some "Payload Too Large"
  | 414 => some "URI Too Long"
  | 415 => some "Unsupported Media Type"
  | 416 => some "Range Not Satisfiable"
  | 417 => some "Expectation Failed"
  | 418 => some "I'm a teapot"
  | 421 => some "Misdirected Request"
  | 422 => some "Unprocessable Entity"
  | 423 => some "Locked"
  | 424 => some "Failed Dependency"
  | 425 => some "Too Early"
  | 426 => some "Upgrade Required"
  | 428 => some "Precondition Required"
  | 429 => some "Too Many Requests"
  | 431 => some "Request Header Fields Too Large"
  | 451 => some "Unavailable For Legal Reasons"
  | 500 => some "Internal Server Error"
  | 501 => some "Not Implemented"
  | 502 => some "Bad Gateway"
  | 503 => some "Service Unavailable"
  | 504 => some "Gateway Timeout"
  | 505 => some "HTTP Version Not Supported"
  | 506 => some "Variant Also Negotiates"
  | 507 => some "Insufficient Storage"
  | 508 => some "Loop Detected"
  | 510 => some "Not Extended"
  | 511 => some "Network Authentication Required"
  | _ => none

def statusText (status : Nat) : String :=
  "HTTP " ++ toString status ++ " " ++ (reason? status).getD "<unknown status code>"

def isSuccess (status : Nat) : Bool := 200 ≤ status && status < 300

/-- Data starts with a brace or a bracket. -/
def looksLikeData (body : String) : Bool :=
  match Text.stripStart body.toList with
  | '{' :: _ | '[' :: _ => true
  | _ => false

/-- A body that says of itself that it reports an error. -/
def errorBody? (body : String) : Option ErrorBody := do
  let e ← (Json.ofText? body).bind ErrorBody.ofJson?
  if e.isHafasError.isSome || e.code.isSome || e.hafasCode.isSome then some e else none

def statusCode (status : Nat) : String := if status = 404 then "NOT_FOUND" else "SERVER_ERROR"

/-- The failure that a response with an error status stands for. -/
def backendError (status : Nat) (body : String) : Error :=
  match errorBody? body with
  | some e =>
    .backend (e.code.getD (statusCode status)) e.hafasCode
      ((e.message <|> e.msg).getD (statusText status))
  | none =>
    if status = 404 then .backend "NOT_FOUND" none (statusText status)
    else .requestFailed (statusText status)

/-- The class of a body that does not look like data. -/
def pageClass (t : Triage) (address : Url) (body : String) : ResponseClass :=
  if looksLikeData body then .normal else t.classify body address

/-- The body of a good answer, and where it came from. A limit on the rate is reported before the
body is looked at, a page before its status is. -/
def Answer.body (config : Config) (triage : Triage) : Answer → Except Error (Url × String)
  | .timedOut => .error (.timeout config.timeoutSecs)
  | .unreachable m => .error (.connectionFailed m)
  | .response status retryAfter address body =>
    if status = 429 then .error (.rateLimit (retryAfter.bind (Text.natBelow? (twoTo 64))))
    else match body with
      | none => .error (.parse "the body broke off")
      | some body => match pageClass triage address body with
        | .normal =>
          if isSuccess status then .ok (address, body) else .error (backendError status body)
        | page => .error (.triage page)

end Transit.Hafas
