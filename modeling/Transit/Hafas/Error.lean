import Transit.ProviderError
import Transit.Result.Status
import Transit.Triage
/-! Failures of requests to a HAFAS backend. -/
namespace Transit.Hafas

inductive Error
  | connectionFailed (message : String)
  | timeout (seconds : Nat)
  | requestFailed (message : String)
  | parse (message : String)
  | rateLimit (retryAfter : Option Nat)
  | backend (code : String) (hafasCode : Option String) (message : String)
  | triage (page : ResponseClass)
  | configuration (message : String)
deriving DecidableEq

namespace Error

def secondsText : Option Nat → String
  | some n => "Some(" ++ toString n ++ ")"
  | none => "None"

def message : Error → String
  | .connectionFailed m => "Connection failed: " ++ m
  | .timeout n => "Request timed out after " ++ toString n ++ " seconds"
  | .requestFailed m => "Request failed: " ++ m
  | .parse m => "Parse error: " ++ m
  | .rateLimit n? => "Rate limit exceeded, retry after " ++ secondsText n? ++ " seconds"
  | .backend code hafasCode m =>
    "Backend error " ++ code ++ " (" ++ hafasCode.getD "-" ++ "): " ++ m
  | .triage page => "Non-structured response: " ++ page.text
  | .configuration m => "Configuration error: " ++ m

/-- Worth another attempt. -/
def isRetryable : Error → Bool
  | .connectionFailed _ | .timeout _ | .requestFailed _ | .rateLimit _ => true
  | .triage page => page = .sessionExpired || page = .internalError
  | _ => false

/-- The backend does not know what was asked for. -/
def isNotFound : Error → Bool
  | .backend code hafasCode _ => code = "NOT_FOUND" || hafasCode = some "LOCATION"
  | _ => false

/-- The status that a HAFAS code stands for in a trip query. -/
def codeStatus? : String → Option TripsStatus
  | "H890" | "H891" | "H892" | "H9240" | "H9220" => some .noTrips
  | "H9380" | "H895" => some .tooClose
  | "H9360" => some .invalidDate
  | "LOCATION" => some .unknownLocation
  | _ => none

def tripsStatus? : Error → Option TripsStatus
  | .backend _ hafasCode _ => hafasCode.bind codeStatus?
  | _ => none

def toProviderError : Error → ProviderError
  | .timeout n => .transport (message (.timeout n)) true
  | .parse m => .unexpectedResponse (message (.parse m))
  | .backend code hafasCode m => .unexpectedResponse (message (.backend code hafasCode m))
  | .configuration m => .precondition m
  | e => .transport e.message false

end Transit.Hafas.Error
