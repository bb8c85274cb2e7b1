/-! Why an entity cannot be built. -/
namespace Transit

inductive EntityError
  | invalidCoordinate (reason : String)
  | invalidLocation (reason : String)
  | emptyTrip
  | disconnectedLegs (index : Nat)
  | missingTime (what : String)
  | unknownCode (code : String)
deriving DecidableEq

def EntityError.message : EntityError → String
  | .invalidCoordinate reason => "Invalid coordinate: " ++ reason
  | .invalidLocation reason => "Invalid location: " ++ reason
  | .emptyTrip => "Trip has no legs"
  | .disconnectedLegs index =>
    "Leg " ++ toString index ++ " does not start where leg " ++ toString (index - 1) ++ " ends"
  | .missingTime what => "Missing time: " ++ what
  | .unknownCode code => "Unknown code: " ++ code

end Transit
