import Gatehouse.Crypto.Error
import Gatehouse.Kms.Error
import Gatehouse.Store.Error

/-!
# Failures of the session service
-/

namespace Gatehouse

/-- Why a call of the session service failed. -/
inductive SessionError where
  /-- A token is not acceptable. The reason is logged and never told. -/
  | authenticationFailed
  /-- Stored data contradicts itself. -/
  | integrity (detail : String)
  /-- A project has no signing key left to issue tokens with. -/
  | noActiveSigningKey (project : String)
  /-- The caller gave an impossible value. -/
  | invalidInput (detail : String)
  /-- The store failed. -/
  | storage (e : StoreError)
  /-- The key protector failed. -/
  | kms (e : KmsError)
  /-- A key could not be made, read or used. -/
  | crypto (e : CryptoError)
deriving DecidableEq, Repr

/-- The name of a kind of failure, for programs: the layer that failed first, if it is another one,
and the kind of its failure. -/
def SessionError.name : SessionError → String
  | authenticationFailed => "AuthenticationFailed"
  | integrity _ => "Integrity"
  | noActiveSigningKey _ => "NoActiveSigningKey"
  | invalidInput _ => "InvalidInput"
  | storage e => "Storage." ++ e.name
  | kms e => "Kms." ++ e.name
  | crypto e => "Crypto." ++ e.name

/-- What is said about a failure. -/
def SessionError.message : SessionError → String
  | authenticationFailed => "authentication failed"
  | integrity detail => "integrity error: " ++ detail
  | noActiveSigningKey project => "no active session signing key for project " ++ project
  | invalidInput detail => "invalid input: " ++ detail
  | storage e => e.message
  | kms e => e.message
  | crypto e => e.message

end Gatehouse
