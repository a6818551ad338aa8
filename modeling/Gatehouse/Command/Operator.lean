import Gatehouse.Command.Host

/-!
# The operator's program

It bootstraps the console, makes and changes projects and API keys, and asks a running server for a
sign of life. Ids are read first, then the key management service is set up, and only then the
store is opened.
-/

namespace Gatehouse

/-- What the operator asks for. -/
inductive Operation where
  | bootstrap (directory : String) (kms : KmsConfig.Options) (request : Provisioning.ConsoleRequest)
  | createProject (directory : String) (kms : KmsConfig.Options)
      (consoleProjectId displayName vaultDomain : String)
  | updateProject (directory projectId vaultDomain logoUrl darkModeLogoUrl : String)
  | createApiKey (directory projectId displayName : String) (authenticationOnly : Bool)
  | revokeApiKey (directory projectId apiKeyId : String)
  | status (address : String)
deriving DecidableEq, Repr

namespace Operation

open Command (Opt Form Given Variables directoryOption kmsOptions kmsSettings?)

/-! ## Arguments -/

/-- An option without which a program does nothing, for each name. -/
def plain (names : List String) : List Opt := names.map fun name => { name }

/-- An option that is empty unless it is given, for each name. -/
def blank (names : List String) : List Opt :=
  names.map fun name => { name, default? := some "" }

/-- What `bootstrap` takes. -/
def bootstrapForm : Form :=
  { options := directoryOption :: kmsOptions ++
      plain ["console-domain", "vault-domain", "root-user-email"] }

/-- What `create-project` takes. -/
def createProjectForm : Form :=
  { options := directoryOption :: kmsOptions ++
      { name := "console-project-id", source? := some "PORTIER_CONSOLE_PROJECT_ID" } ::
      plain ["display-name", "vault-domain"] }

/-- What `update-project` takes. -/
def updateProjectForm : Form :=
  { options := directoryOption :: blank ["vault-domain", "logo-url", "dark-mode-logo-url"]
    operands := 1 }

/-- What `create-backend-api-key` takes. -/
def createApiKeyForm : Form :=
  { options := directoryOption :: blank ["display-name"], flags := ["authentication-only"]
    operands := 1 }

/-- What `revoke-backend-api-key` takes. -/
def revokeApiKeyForm : Form :=
  { options := [directoryOption], operands := 2 }

/-- What `status` takes. -/
def statusForm : Form :=
  { options := [⟨"addr", some "PORTIER_ADDR", some "http://localhost:8300", .text⟩] }

/-- The operation that arguments ask for. `none` if they cannot be understood. -/
def ofArguments? (env : Variables) : List String → Option Operation
  | "bootstrap" :: args => do
    let g ← bootstrapForm.read? env args
    return bootstrap (← g.value? "data-dir") (← kmsSettings? g)
      { rootUserEmail := ← g.value? "root-user-email"
        consoleDomain := ← g.value? "console-domain", vaultDomain := ← g.value? "vault-domain" }
  | "create-project" :: args => do
    let g ← createProjectForm.read? env args
    return createProject (← g.value? "data-dir") (← kmsSettings? g)
      (← g.value? "console-project-id") (← g.value? "display-name") (← g.value? "vault-domain")
  | "update-project" :: args => do
    let g ← updateProjectForm.read? env args
    return updateProject (← g.value? "data-dir") (← g.operands[0]?) (← g.value? "vault-domain")
      (← g.value? "logo-url") (← g.value? "dark-mode-logo-url")
  | "create-backend-api-key" :: args => do
    let g ← createApiKeyForm.read? env args
    return createApiKey (← g.value? "data-dir") (← g.operands[0]?) (← g.value? "display-name")
      (g.flags.contains "authentication-only")
  | "revoke-backend-api-key" :: args => do
    let g ← revokeApiKeyForm.read? env args
    return revokeApiKey (← g.value? "data-dir") (← g.operands[0]?) (← g.operands[1]?)
  | "status" :: args => do return status (← (← statusForm.read? env args).value? "addr")
  | _ => none

/-! ## Running -/

variable [Wording] {σ : Type}

/-- The identifier that an external id writes. -/
def readId (context : String) (format : IdFormat) (text : String) : Call σ Failure Uuid :=
  (Call.ofExcept (format.parse text)).explain context InvalidId.message

/-- Opens the store. -/
def openStore (host : Host σ) (directory : String) : Call σ Failure Unit :=
  Command.openStore host ("Failed to open database in " ++ directory) directory

/-- Makes the client that settings ask for. -/
def connect (host : Host σ) (settings : KmsConfig.Options) : Call σ Failure KmsClient := do
  let config ← (Call.ofExcept (KmsConfig.ofOptions settings)).explain
    "Invalid session signing key KMS configuration" KmsError.message
  Command.connectKms host "Failed to build session signing key KMS client" config

/-- Bootstraps the console; prints its id and the owner's email and password. -/
def runBootstrap (host : Host σ) (directory : String) (kms : KmsConfig.Options)
    (request : Provisioning.ConsoleRequest) : Call σ Failure String := do
  let client ← connect host kms
  openStore host directory
  let console ← (Provisioning.createConsole (Command.signingKeys host client) host.hashPassword
      request host.entropy.console host.now).explain "Bootstrap failed" SessionError.message
  let id := IdFormat.project.format console.projectId
  return s!"{id}\t{console.rootUserEmail}\t{console.rootUserPassword}\n"

/-- Makes a tenant project; prints its id. -/
def runCreateProject (host : Host σ) (directory : String) (kms : KmsConfig.Options)
    (consoleProjectId displayName vaultDomain : String) : Call σ Failure String := do
  let consoleProjectId ← readId "Invalid console project id" .project consoleProjectId
  let client ← connect host kms
  openStore host directory
  let created ← (Provisioning.createProject (Command.signingKeys host client)
      ⟨consoleProjectId, displayName, vaultDomain⟩ host.entropy.project host.now).explain
    "Create project failed" SessionError.message
  return IdFormat.project.format created.projectId ++ "\n"

/-- Changes a project, leaving alone what is given an empty value; prints the project. -/
def runUpdateProject (host : Host σ) (directory projectId : String)
    (vaultDomain logoUrl darkModeLogoUrl : String) : Call σ Failure String := do
  let projectId ← readId "Invalid project id" .project projectId
  openStore host directory
  let project ← (Store.updateProject {
      projectId, vaultDomain := KmsConfig.nonEmpty (some vaultDomain),
      logoUrl := KmsConfig.nonEmpty (some logoUrl),
      darkModeLogoUrl := KmsConfig.nonEmpty (some darkModeLogoUrl) }).explain
    "Update project failed" StoreError.message
  return "Project " ++ IdFormat.project.format project.id ++ " updated:\n" ++
    "  Vault domain:       " ++ project.vaultDomain ++ "\n" ++
    "  Logo URL:           " ++ project.logoUrl.getD "" ++ "\n" ++
    "  Dark mode logo URL: " ++ project.darkModeLogoUrl.getD "" ++ "\n"

/-- Makes an API key; prints its id and its secret. -/
def runCreateApiKey (host : Host σ) (directory projectId displayName : String)
    (authenticationOnly : Bool) : Call σ Failure String := do
  let projectId ← readId "Invalid project id" .project projectId
  openStore host directory
  let _ ← (Store.getProject projectId).explain "Project not found" StoreError.message
  let created ← (ApiKeys.create host.entropy.apiKey projectId displayName authenticationOnly
      host.now).explain "Create backend API key failed" AuthError.message
  return s!"{IdFormat.apiKey.format created.record.id}\t{created.secret}\n"

/-- Revokes an API key. -/
def runRevokeApiKey (host : Host σ) (directory projectId apiKeyId : String) :
    Call σ Failure String := do
  let projectId ← readId "Invalid project id" .project projectId
  let apiKeyId ← readId "Invalid backend API key id" .apiKey apiKeyId
  openStore host directory
  (ApiKeys.revoke projectId apiKeyId).explain "Revoke backend API key failed" StoreError.message
  return s!"Backend API key {IdFormat.apiKey.format apiKeyId} revoked\n"

/-- The request for a server's sign of life. -/
def healthRequest (address : String) : Http.Request :=
  let url := Gcp.trimSlashes address ++ "/health"
  { method := "GET", url, path := Http.Url.target url }

/-- The status in a server's sign of life. -/
def healthStatus? (body : String) : Option String := do
  match ← Json.fields? [.required "status"] (← Json.parse? body) with
  | [value] => value.text?
  | _ => none

/-- Asks a server for a sign of life, wherever it is referred to. -/
def runStatus (host : Host σ) (address : String) : Call σ Failure String := do
  let response ← (Call.protect
      (host.network.follow Http.maxRedirects (healthRequest address))).mapError fun causes =>
    ⟨"Failed to connect to server", causes⟩
  if !Http.Status.isSuccess response.status then
    .fail ⟨s!"Server error: HTTP {Http.Status.text response.status}", []⟩
  else
    match healthStatus? response.body with
    | some text => return s!"Portier server status: {text}\n"
    | none =>
      .fail ⟨"Failed to parse response",
        ["error decoding response body", Wording.json response.body]⟩

/-- The directory of the store that an operation works on. -/
def directory? : Operation → Option String
  | bootstrap directory .. | createProject directory .. | updateProject directory ..
  | createApiKey directory .. | revokeApiKey directory .. => some directory
  | status _ => none

/-- Carries out an operation. Its value is what the program prints. -/
def run (host : Host σ) : Operation → Call σ Failure String
  | bootstrap directory kms request => runBootstrap host directory kms request
  | createProject directory kms console displayName vaultDomain =>
    runCreateProject host directory kms console displayName vaultDomain
  | updateProject directory projectId vaultDomain logoUrl darkModeLogoUrl =>
    runUpdateProject host directory projectId vaultDomain logoUrl darkModeLogoUrl
  | createApiKey directory projectId displayName authenticationOnly =>
    runCreateApiKey host directory projectId displayName authenticationOnly
  | revokeApiKey directory projectId apiKeyId => runRevokeApiKey host directory projectId apiKeyId
  | status address => runStatus host address

end Operation
end Gatehouse
