import Gatehouse.ExternalId
import Gatehouse.Json.Decode

/-!
# Identities

Who makes a call: a machine with a backend API key, or a person with a console session.
-/

namespace Gatehouse

/-- A caller with a backend API key. -/
structure ApiKeyIdentity where
  apiKeyId : Uuid
  /-- The project of the key. -/
  projectId : Uuid
  /-- Whether the key may call authentication procedures only. -/
  authenticationOnly : Bool
deriving DecidableEq, Repr

/-- A caller with a console session. -/
structure ConsoleSessionIdentity where
  userId : Uuid
  sessionId : Uuid
  organizationId : Uuid
  /-- The project that the caller manages. -/
  projectId : Uuid
deriving DecidableEq, Repr

/-- Who makes a call. -/
inductive Identity where
  | apiKey (i : ApiKeyIdentity)
  | consoleSession (i : ConsoleSessionIdentity)
deriving DecidableEq, Repr

namespace Identity

/-- The project that the caller acts on. -/
def projectId : Identity → Uuid
  | apiKey i => i.projectId
  | consoleSession i => i.projectId

/-- The external id of the caller, for the log. -/
def caller : Identity → String
  | apiKey i => IdFormat.apiKey.format i.apiKeyId
  | consoleSession i => IdFormat.user.format i.userId

/-- The external id of the caller's session. -/
def session : Identity → Option String
  | apiKey _ => none
  | consoleSession i => some (IdFormat.session.format i.sessionId)

/-! ## JSON -/

/-- An identifier as JSON. -/
def idJson (id : Uuid) : Json := Json.str id.text

/-- The members of an identity, without its kind. -/
def members : Identity → List (String × Json)
  | apiKey i => [("backend_api_key_id", idJson i.apiKeyId), ("project_id", idJson i.projectId),
      ("authentication_only", .bool i.authenticationOnly)]
  | consoleSession i => [("user_id", idJson i.userId), ("session_id", idJson i.sessionId),
      ("organization_id", idJson i.organizationId), ("project_id", idJson i.projectId)]

/-- The name of a kind of identities. -/
def kind : Identity → String
  | apiKey _ => "backend_api_key"
  | consoleSession _ => "console_session"

/-- An identity as JSON, with its kind as a member. -/
def toJson (i : Identity) : Json :=
  Json.obj (("kind", Json.str i.kind) :: i.members)

/-- An identity with what follows from it: the project, the caller and the session. -/
def view (i : Identity) : List (String × Json) :=
  [("identity", i.toJson), ("project_id", idJson i.projectId), ("caller", Json.str i.caller),
    ("session", Json.ofOption Json.str i.session)]

/-- The identifier that a JSON value gives. -/
def id? (j : Json) : Option Uuid :=
  j.text?.bind Uuid.parse?

/-- The identity of a kind that the other fields give. -/
def ofKind? (kind : String) (rest : Json) : Option Identity :=
  if kind = "backend_api_key" then do
    match ← Json.fields? (["backend_api_key_id", "project_id", "authentication_only"].map .required)
        rest with
    | [keyId, projectId, only] => return .apiKey ⟨← id? keyId, ← id? projectId, ← only.bool?⟩
    | _ => none
  else if kind = "console_session" then do
    match ← Json.fields? (["user_id", "session_id", "organization_id", "project_id"].map .required)
        rest with
    | [userId, sessionId, organizationId, projectId] =>
      return .consoleSession ⟨← id? userId, ← id? sessionId, ← id? organizationId, ← id? projectId⟩
    | _ => none
  else none

/-- The identity that a JSON value gives: an object, or an array that begins with the kind. The
value is kept whole until its kind is known. -/
def ofJson? (j : Json) : Option Identity :=
  if Json.isKeepable 0 j then
    match j with
    | .object ms =>
      match Json.valuesAt ms "kind" with
      | [kind] => kind.text?.bind fun k => ofKind? k (.object (ms.filter (·.1 != some "kind")))
      | _ => none
    | .array (kind :: rest) => kind.text?.bind fun k => ofKind? k (.array rest)
    | _ => none
  else none

end Identity

/-- What a handler learns about the call it serves. -/
structure CallContext where
  procedure : String
  /-- The caller; absent only for procedures that need no authentication. -/
  identity : Option Identity
deriving DecidableEq, Repr

namespace CallContext

/-- What is said of a call without an identity where one is needed. -/
def noIdentity (c : CallContext) : String :=
  s!"call context for {c.procedure} carries no identity"

/-- A context as JSON. -/
def toJson (c : CallContext) : Json :=
  let procedure := ("procedure", Json.str c.procedure)
  match c.identity with
  | none => Json.obj [procedure, ("identity", .null)]
  | some i =>
    let projectId := Json.str (IdFormat.project.format i.projectId)
    Json.obj (procedure :: ("formatted_project_id", projectId) :: i.view)

end CallContext
end Gatehouse
