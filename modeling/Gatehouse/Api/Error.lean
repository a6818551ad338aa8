import Gatehouse.Auth.Error
import Gatehouse.ExternalId
import Gatehouse.Json.Decode

/-!
# Failures of the interface

Each failure has a status and a body. What a client cannot mend is told as an internal error
without its cause.
-/

namespace Gatehouse

/-- The body of a failed reply. -/
structure ErrorBody where
  /-- A code for programs. -/
  code : String
  /-- A text for people. -/
  message : String
deriving DecidableEq, Repr

namespace ErrorBody

/-- A body as JSON. -/
def toJson (b : ErrorBody) : Json :=
  Json.obj [("code", Json.str b.code), ("message", Json.str b.message)]

/-- The body that a JSON value gives. -/
def ofJson? (j : Json) : Option ErrorBody := do
  match ← Json.fields? [.required "code", .required "message"] j with
  | [code, message] => return ⟨← code.text?, ← message.text?⟩
  | _ => none

end ErrorBody

/-- Why a request failed. -/
inductive ApiError where
  /-- There is no valid credential. -/
  | unauthenticated
  /-- The credential is not enough. -/
  | permissionDenied
  /-- The client sent an impossible value. -/
  | invalidArgument (detail : String)
  /-- What the client asks for does not exist. -/
  | notFound (detail : String)
  /-- Anything that the client cannot mend. -/
  | internal (detail : String)
deriving DecidableEq, Repr

namespace ApiError

/-- The name of a kind of failure, for programs. -/
def name : ApiError → String
  | unauthenticated => "Unauthenticated"
  | permissionDenied => "PermissionDenied"
  | invalidArgument _ => "InvalidArgument"
  | notFound _ => "NotFound"
  | internal _ => "Internal"

/-- What is said about a failure in the log. -/
def message : ApiError → String
  | unauthenticated => "unauthenticated"
  | permissionDenied => "permission denied"
  | invalidArgument detail => "invalid argument: " ++ detail
  | notFound detail => "not found: " ++ detail
  | internal detail => "internal error: " ++ detail

/-- The status of a failed reply. -/
def status : ApiError → Nat
  | unauthenticated => 401
  | permissionDenied => 403
  | invalidArgument _ => 400
  | notFound _ => 404
  | internal _ => 500

/-- The body of a failed reply. -/
def body : ApiError → ErrorBody
  | unauthenticated => ⟨"unauthenticated", "unauthenticated"⟩
  | permissionDenied => ⟨"permission_denied", "permission denied"⟩
  | invalidArgument detail => ⟨"invalid_argument", detail⟩
  | notFound detail => ⟨"not_found", detail⟩
  | internal _ => ⟨"internal", "internal error"⟩

/-- What a failure of authentication means for a request. -/
def ofAuth : AuthError → ApiError
  | .unauthenticated => unauthenticated
  | .permissionDenied => permissionDenied
  | .integrity detail => internal ("integrity: " ++ detail)
  | .internal detail => internal detail

/-- What a failure of the store means for a request. -/
def ofStore : StoreError → ApiError
  | .notFound detail => notFound detail
  | .invalidInput detail => invalidArgument detail
  | e => internal e.message

/-- What a failure of the session service means for a request. -/
def ofSession : SessionError → ApiError
  | .storage e => ofStore e
  | .invalidInput detail => invalidArgument detail
  | e => ofAuth (.ofSession e)

/-- What a text that is no external id means for a request. -/
def ofInvalidId (e : InvalidId) : ApiError :=
  invalidArgument e.message

end ApiError
end Gatehouse
