import Gatehouse.Api.Router
import Gatehouse.Command.Host

/-!
# The server's program

It reads its options, makes sure that the key management service can be used and that the store
holds the project it is to serve, and then listens.
-/

namespace Gatehouse

/-- What a server is started with. -/
structure ServerOptions where
  directory : String
  /-- The address to listen at. -/
  bind : String
  /-- The external id of the project that operates the service. -/
  consoleProjectId : String
  /-- The domain under which the audiences of projects live. -/
  rootDomain : String
  /-- The life of a token, in seconds. -/
  accessTokenTtl : Nat
  kms : KmsConfig.Options
deriving DecidableEq, Repr

namespace ServerOptions

open Command (Form Variables directoryOption kmsOptions kmsSettings? count?)

/-- What the server takes. -/
def form : Form :=
  { options := [
      directoryOption,
      ⟨"bind", some "PORTIER_BIND_ADDRESS", some "0.0.0.0:8300", .text⟩,
      ⟨"console-project-id", some "PORTIER_CONSOLE_PROJECT_ID", none, .text⟩,
      ⟨"auth-apps-root-domain", some "PORTIER_AUTH_APPS_ROOT_DOMAIN", some "portier.app", .text⟩,
      ⟨"access-token-ttl-secs", some "PORTIER_ACCESS_TOKEN_TTL_SECS", some "300", .count⟩] ++
      kmsOptions }

/-- The options that arguments give. `none` if they cannot be understood. -/
def ofArguments? (env : Variables) (args : List String) : Option ServerOptions := do
  let g ← form.read? env args
  return {
    directory := ← g.value? "data-dir", bind := ← g.value? "bind",
    consoleProjectId := ← g.value? "console-project-id",
    rootDomain := ← g.value? "auth-apps-root-domain",
    accessTokenTtl := ← (g.value? "access-token-ttl-secs").bind count?, kms := ← kmsSettings? g }

end ServerOptions

/-! ## Addresses -/

/-- Whether a text is the number of a port: digits, with a plus sign before them or without. -/
def isPort (s : String) : Bool :=
  (Command.count? s).any (· < Limit.bits16)

/-- The parts of an address between its colons. -/
def addressParts (address : String) : List String :=
  (address.toList.splitOn ':').map String.ofList

/-- What is wrong with the form of an address. -/
def addressProblem? (address : String) : Option String :=
  match addressParts address with
  | [_] => some "invalid socket address"
  | parts => if (parts.getLast?.map isPort).getD false then none else some "invalid port value"

/-- The hosts that stand for the machine itself. -/
def ownHosts : List String :=
  ["0.0.0.0", "127.0.0.1", "localhost", "[::]", "[::1]", "::", "::1"]

/-- Why a machine that knows no names but its own cannot listen at an address. -/
def foreignHostProblem? (address : String) : Option String :=
  let host := ":".intercalate (addressParts address).dropLast
  if ownHosts.contains host then none
  else if host.toList.all fun c => c.isDigit || c == '.' then
    some "Cannot assign requested address (os error 99)"
  else some "failed to lookup address information: Temporary failure in name resolution"

/-! ## Running -/

/-- A server that listens. -/
structure Server where
  bind : String
  consoleProjectId : Uuid
  tokens : TokenConfig
deriving DecidableEq, Repr

namespace Server

variable {σ : Type}

/-- The part of the service that emits the events below. -/
def logTarget : String := "portier_server"

/-- Emits an event about the life of the server. -/
def note (message : String) (fields : Log.Fields := []) : Call σ Failure Unit :=
  .emit { level := .info, target := logTarget, message, fields }

/-- Starts a server. -/
def start [Wording] (host : Host σ) (o : ServerOptions) : Call σ Failure Server := do
  let consoleProjectId ← (Call.ofExcept (IdFormat.project.parse o.consoleProjectId)).explain
    "invalid --console-project-id" InvalidId.message
  note "Starting Portier server..."
  note "Configuration loaded" [("data_dir", .text o.directory), ("bind", .text o.bind)]
  let config ← (Call.ofExcept (KmsConfig.ofOptions o.kms)).explain
    "invalid session signing key KMS configuration" KmsError.message
  let _ ← Command.connectKms host "failed to build session signing key KMS client" config
  note "Session signing key KMS ready" [("backend", .text config.backend.name)]
  Command.openStore host "failed to open database" o.directory
  let _ ← (Store.getProject consoleProjectId).explain
    "console project not found; run \x60portierctl bootstrap\x60 first" StoreError.message
  if let some problem := addressProblem? o.bind <|> host.listenProblem o.bind then
    .fail (.because ("failed to bind " ++ o.bind) problem)
  note ("Portier server listening on " ++ o.bind)
    [("console_project_id", .text o.consoleProjectId)]
  return {
    bind := o.bind, consoleProjectId
    tokens := { audienceRootDomain := o.rootDomain, accessTokenTtl := o.accessTokenTtl } }

/-- The gate of a server at a time. -/
def gate [Wording] (s : Server) (now : Int) : Gate σ :=
  { bearer := .apiKeys, cookie := .sessions s.tokens s.consoleProjectId now,
    consoleProjectId := s.consoleProjectId }

/-- Answers a request at a time. -/
def answer [Wording] (s : Server) (r : Api.Request) (now : Int) : Call σ Failure Api.Response :=
  Api.serve ⟨s.gate now, s.consoleProjectId⟩ r now

/-- Ends a server. -/
def stop (_ : Server) : Call σ Failure Unit := note "Shutting down..."

end Server
end Gatehouse
