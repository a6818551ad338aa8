import Gatehouse.Session.Error

/-!
# Failures of authentication
-/

namespace Gatehouse

/-- Why a call was not let through. A refused credential never tells which check it failed. -/
inductive AuthError where
  /-- There is no credential that is known to be good. -/
  | unauthenticated
  /-- The credential is good, but not for this procedure. -/
  | permissionDenied
  /-- Stored data contradicts itself. -/
  | integrity (detail : String)
  /-- Something behind authentication failed. -/
  | internal (detail : String)
deriving DecidableEq, Repr

namespace AuthError

/-- The name of a kind of failure, for programs. -/
def name : AuthError → String
  | unauthenticated => "Unauthenticated"
  | permissionDenied => "PermissionDenied"
  | integrity _ => "Integrity"
  | internal _ => "Internal"

/-- What is said about a failure. -/
def message : AuthError → String
  | unauthenticated => "unauthenticated"
  | permissionDenied => "permission denied"
  | integrity detail => "integrity error: " ++ detail
  | internal detail => "internal error: " ++ detail

/-- What a failure of the session service means for authentication. -/
def ofSession : SessionError → AuthError
  | .authenticationFailed => unauthenticated
  | .integrity detail => integrity detail
  | e => internal e.message

/-- What a failure of the store means for authentication. -/
def ofStore (e : StoreError) : AuthError :=
  internal e.message

end AuthError
end Gatehouse
