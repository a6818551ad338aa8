import Gatehouse.Auth.ApiKeys
import Gatehouse.Auth.Cookie
import Gatehouse.Http.Headers
import Gatehouse.Session.Token

/-!
# The authentication gate

Each call takes exactly one path. Procedures that need no authentication are served without an
identity. A call with an authorization header that is not empty is judged by its bearer secret
alone, any other by its session cookie alone.
-/

namespace Gatehouse

/-- The caller that a session token identifies. -/
def Identity.ofSession (i : SessionIdentity) : Identity :=
  .consoleSession ⟨i.userId, i.sessionId, i.organizationId, i.projectId⟩

/-- A kind of credential that can be checked. -/
structure CredentialCheck (σ : Type) where
  /-- Its name in the log. -/
  name : String
  /-- Finds whom a credential identifies. -/
  validate : String → Call σ AuthError Identity

namespace CredentialCheck

variable {σ : Type}

/-- The check of bearer secrets. -/
def apiKeys : CredentialCheck σ where
  name := "backend-api-key"
  validate secret := do return .apiKey (← ApiKeys.authenticate secret)

/-- The check of console session tokens. They are always checked as tokens of the console project;
the identity acts on the project that the session's organization manages. -/
def sessions [Wording] (config : TokenConfig) (consoleProjectId : Uuid) (now : Int) :
    CredentialCheck σ where
  name := "console-session"
  validate token := do
    let i ← (SessionToken.verify config consoleProjectId token now).mapError .ofSession
    return .ofSession i

end CredentialCheck

/-- What decides about calls. -/
structure Gate (σ : Type) where
  /-- The check of what an authorization header presents. -/
  bearer : CredentialCheck σ
  /-- The check of what a session cookie presents. -/
  cookie : CredentialCheck σ
  /-- The project that operates the service. -/
  consoleProjectId : Uuid

namespace Gate

variable {σ : Type}

/-- The part of the service that emits the events below. -/
def logTarget : String := "portier_auth::authenticator"

/-- Procedures that need no authentication. -/
def skipProcedures : List String :=
  ["/portier.backend.v1.BackendService/ConsoleGetConfiguration"]

/-- The procedures that an authentication-only key may call. -/
def authenticationProcedures : List String :=
  ["/portier.backend.v1.BackendService/AuthenticateApiKey"]

/-- What precedes the secret in an authorization header. -/
def bearerScheme : String := "Bearer "

/-- The name of the session cookie of a console. -/
def cookieName (consoleProjectId : Uuid) : String :=
  "portier_" ++ IdFormat.project.format consoleProjectId ++ "_access_token"

/-- Emits an event about the way of a call through the gate. -/
def note (message : String) (fields : Log.Fields := []) : Call σ AuthError Unit :=
  .emit { level := .debug, target := logTarget, message, fields }

/-- Refuses a call. -/
def refuse {α : Type} (message : String) (fields : Log.Fields := []) : Call σ AuthError α := do
  note message fields
  .fail .unauthenticated

/-- Has a credential checked, and logs that it is rejected if it is. -/
def check (c : CredentialCheck σ) (credential : String) : Call σ AuthError Identity := do
  match ← (c.validate credential).attempt with
  | .ok identity => return identity
  | .error e => do
    note "Credential rejected" [("backend", .quoted c.name), ("error", .text e.message)]
    .fail e

/-- Whether an identity may call a procedure. -/
def permits (procedure : String) : Identity → Bool
  | .apiKey key => !key.authenticationOnly || authenticationProcedures.contains procedure
  | .consoleSession _ => true

/-- The secret in the text of an authorization header. -/
def bearerSecret? (authorization : String) : Option String :=
  (bearerScheme.toList.isPrefixOf? authorization.toList).map String.ofList

/-- The way of a call with an authorization header. -/
def authenticateBearer (g : Gate σ) (procedure authorization : String) :
    Call σ AuthError Identity := do
  match bearerSecret? authorization with
  | none => refuse "Authorization header is not a bearer credential"
  | some secret =>
    let identity ← check g.bearer secret
    if permits procedure identity then return identity
    else do
      note "Authentication-only key used outside allow-list" [("caller", .text identity.caller)]
      .fail .permissionDenied

/-- The way of a call without an authorization header. -/
def authenticateCookie (g : Gate σ) (headers : Http.Headers) : Call σ AuthError Identity := do
  let name := cookieName g.consoleProjectId
  match Cookie.last? (headers.values "cookie") name with
  | some token =>
    if token = "" then refuse "No session cookie" [("cookie", .text name)]
    else check g.cookie token
  | none => refuse "No session cookie" [("cookie", .text name)]

/-- The identity behind a call. -/
def identify (g : Gate σ) (procedure : String) (headers : Http.Headers) :
    Call σ AuthError Identity := do
  match (headers.first? "authorization").filter (!·.isEmpty) with
  | some value =>
    match Http.headerText? value with
    | some text => g.authenticateBearer procedure text
    | none => refuse "Authorization header is not visible ASCII"
  | none => g.authenticateCookie headers

/-- Decides about a call. -/
def authenticate (g : Gate σ) (procedure : String) (headers : Http.Headers) :
    Call σ AuthError CallContext :=
  if skipProcedures.contains procedure then return ⟨procedure, none⟩
  else
    .inSpan ⟨"authn", [("procedure", .text procedure)]⟩ do
      let identity ← g.identify procedure headers
      note "Authenticated call" [("caller", .text identity.caller),
        ("project_id", .text (IdFormat.project.format identity.projectId))]
      return ⟨procedure, some identity⟩

end Gate
end Gatehouse
