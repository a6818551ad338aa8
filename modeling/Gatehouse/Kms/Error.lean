/-!
# Failures of key management
-/

namespace Gatehouse

/-- Why a key management service was of no use. -/
inductive KmsError where
  /-- No service could be chosen, or no client could be made for it. -/
  | configuration (detail : String)
  /-- The service refused a request or could not be reached. -/
  | backend (service operation detail : String)
  /-- The service's reply lacks what was asked for. -/
  | malformedResponse (detail : String)
deriving DecidableEq, Repr

/-- The name of a kind of failure, for programs. -/
def KmsError.name : KmsError → String
  | configuration _ => "Configuration"
  | backend .. => "Backend"
  | malformedResponse _ => "MalformedResponse"

/-- What is said about a failure. -/
def KmsError.message : KmsError → String
  | configuration detail => "kms configuration error: " ++ detail
  | backend service operation detail => s!"{service} {operation} failed: {detail}"
  | malformedResponse detail => "malformed kms response: " ++ detail

end Gatehouse
