import Gatehouse.Bytes.Hex
import Gatehouse.Session.SigningKeys
import Gatehouse.Text.Blank

/-!
# Provisioning of projects

The console project is made once, with its organization and owner; tenant projects are made from
it, each with a managing organization. A project's first signing key is made and encrypted before
anything is written, so that a failing key protector leaves the store as it was.
-/

namespace Gatehouse.Provisioning

variable {σ : Type}

/-- The part of the service that emits the events below. -/
def logTarget : String := "portier_session::projects"

/-! ## Rules for input -/

/-- Refuses a field that holds nothing but white space. -/
def requireText (field value : String) : Except SessionError Unit :=
  if Text.isBlankText value then .error (.invalidInput (field ++ " must not be empty"))
  else .ok ()

/-- Whether a domain is another one, or ends with a dot and the other one after some text. -/
def isSameOrSubdomain (domain parent : String) : Bool :=
  domain == parent ||
    match parent.toList.reverse.isPrefixOf? domain.toList.reverse with
    | some ('.' :: _ :: _) => true
    | _ => false

/-! ## The console -/

/-- What the bootstrap of the console is asked for. -/
structure ConsoleRequest where
  rootUserEmail : String
  /-- The console's domain, which its cookies belong to. -/
  consoleDomain : String
  /-- The console's domain or a domain under it. -/
  vaultDomain : String
deriving DecidableEq, Repr

namespace ConsoleRequest

/-- Refuses a request with an impossible value. -/
def check (r : ConsoleRequest) : Except SessionError Unit := do
  requireText "root user email" r.rootUserEmail
  requireText "console domain" r.consoleDomain
  requireText "vault domain" r.vaultDomain
  if isSameOrSubdomain r.vaultDomain r.consoleDomain then .ok ()
  else
    .error (.invalidInput
      s!"vault domain {r.vaultDomain} must be a subdomain of console domain {r.consoleDomain}")

end ConsoleRequest

/-- Random values for the bootstrap of the console. -/
structure ConsoleDraw where
  projectId : Uuid
  organizationId : Uuid
  userId : Uuid
  /-- The bytes of the owner's password. -/
  password : Bytes
  key : KeyDraw
deriving DecidableEq, Repr

/-- The console project as it was made. -/
structure Console where
  projectId : Uuid
  organizationId : Uuid
  rootUserId : Uuid
  rootUserEmail : String
  /-- The owner's password. Only its hash is stored. -/
  rootUserPassword : String
deriving DecidableEq, Repr

/-- The members of a console as JSON, without the password. -/
def Console.members (c : Console) : List (String × Json) :=
  [("project_id", Json.str c.projectId.text), ("organization_id", Json.str c.organizationId.text),
    ("root_user_id", Json.str c.rootUserId.text), ("root_user_email", Json.str c.rootUserEmail)]

/-- The display name of the console project and its organization. -/
def consoleDisplayName : String := "Portier Console"

/-- The owner's first password. -/
def bootstrapPassword (random : Bytes) : String :=
  "this_is_a_very_sensitive_password_" ++ Hex.encode random

/-- What the bootstrap writes. -/
def consoleProject (r : ConsoleRequest) (draw : ConsoleDraw) (passwordHash : String)
    (key : SigningKey) (now : Int) : NewConsoleProject :=
  { projectId := draw.projectId, organizationId := draw.organizationId,
    displayName := consoleDisplayName, consoleDomain := r.consoleDomain,
    vaultDomain := r.vaultDomain,
    owner := { id := draw.userId, email := r.rootUserEmail, passwordHash := some passwordHash,
               isOwner := true },
    signingKey := key, createdAt := now }

/-- Makes the console project, its organization and its owner. Passwords are hashed by `hash`. -/
def createConsole (keys : SigningKeys σ) (hash : String → String) (r : ConsoleRequest)
    (draw : ConsoleDraw) (now : Int) : Call σ SessionError Console := do
  .ofExcept r.check
  let password := bootstrapPassword draw.password
  let key ← keys.generate draw.key draw.projectId now
  (Store.createConsoleProject (consoleProject r draw (hash password) key now)).mapError .storage
  .emit { level := .info, target := logTarget, message := "Bootstrapped console project",
          fields := [("project_id", .text (IdFormat.project.format draw.projectId)),
                     ("console_domain", .text r.consoleDomain),
                     ("vault_domain", .text r.vaultDomain)] }
  return ⟨draw.projectId, draw.organizationId, draw.userId, r.rootUserEmail, password⟩

/-! ## Tenants -/

/-- What the making of a tenant project is asked for. -/
structure ProjectRequest where
  /-- The console project, where the managing organization lives. -/
  consoleProjectId : Uuid
  displayName : String
  vaultDomain : String
deriving DecidableEq, Repr

namespace ProjectRequest

/-- Refuses a request with an impossible value. -/
def check (r : ProjectRequest) : Except SessionError Unit := do
  requireText "display name" r.displayName
  requireText "vault domain" r.vaultDomain

end ProjectRequest

/-- Random values for a tenant project. -/
structure ProjectDraw where
  projectId : Uuid
  organizationId : Uuid
  key : KeyDraw
deriving DecidableEq, Repr

/-- A tenant project as it was made. -/
structure CreatedProject where
  projectId : Uuid
  organizationId : Uuid
deriving DecidableEq, Repr

/-- What the making of a tenant project writes. -/
def tenantProject (r : ProjectRequest) (draw : ProjectDraw) (key : SigningKey) (now : Int) :
    NewProject :=
  { projectId := draw.projectId, consoleProjectId := r.consoleProjectId,
    organizationId := draw.organizationId, displayName := r.displayName,
    vaultDomain := r.vaultDomain, signingKey := key, createdAt := now }

/-- Makes a tenant project and its managing organization. -/
def createProject (keys : SigningKeys σ) (r : ProjectRequest) (draw : ProjectDraw) (now : Int) :
    Call σ SessionError CreatedProject := do
  .ofExcept r.check
  let key ← keys.generate draw.key draw.projectId now
  (Store.createProject (tenantProject r draw key now)).mapError .storage
  .emit { level := .info, target := logTarget, message := "Provisioned project",
          fields := [("project_id", .text (IdFormat.project.format draw.projectId)),
                     ("organization_id",
                      .text (IdFormat.organization.format draw.organizationId))] }
  return ⟨draw.projectId, draw.organizationId⟩

end Gatehouse.Provisioning
