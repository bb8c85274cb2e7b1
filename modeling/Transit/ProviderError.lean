import Transit.EntityError
/-! Failures of a provider. What a backend answers about the journey asked for is a status. -/
namespace Transit

inductive ProviderError
  | transport (message : String) (timedOut : Bool)
  | unexpectedResponse (message : String)
  | precondition (message : String)
  | entity (error : EntityError)
deriving DecidableEq

namespace ProviderError

def message : ProviderError → String
  | .transport m _ => "Transport failure: " ++ m
  | .unexpectedResponse m => "Unexpected response: " ++ m
  | .precondition m => "Precondition violated: " ++ m
  | .entity e => e.message

/-- Worth another attempt. -/
def isRetryable : ProviderError → Bool
  | .transport .. => true
  | _ => false

/-- The call was rejected here. -/
def isPrecondition : ProviderError → Bool
  | .precondition _ | .entity _ => true
  | _ => false

end Transit.ProviderError
