import Gatehouse.Api.Error
import Gatehouse.Api.Wire
import Gatehouse.Auth.Gate

/-!
# The router

A request is routed by its path alone. A procedure is called with `POST`; its caller has to pass
the gate before the method is looked at, and its handler gets what the gate found. Public keys and
the sign of life are read with `GET` or `HEAD`.
-/

namespace Gatehouse.Api

/-- A request to the interface. -/
structure Request where
  method : String
  /-- Path and query. -/
  target : String
  headers : Http.Headers
deriving Repr

/-- The body of a reply. -/
inductive Body where
  | empty
  | json (j : Json)
  | text (s : String)
deriving Repr

/-- The media type of a body. -/
def Body.contentType : Body → Option String
  | empty => none
  | json _ => some "application/json"
  | text _ => some "text/plain; charset=utf-8"

/-- A reply. -/
structure Response where
  status : Nat
  contentType : Option String
  /-- The methods that a route knows, when the request uses another. -/
  allow : Option String := none
  body : Body
deriving Repr

/-- A reply as JSON, for whoever watches the interface. An empty body is an empty text. -/
def Response.toJson (r : Response) : Json :=
  let body := match r.body with
    | .empty => Json.str ""
    | .json j => j
    | .text s => Json.str s
  Json.obj [("status", Json.int r.status), ("content_type", Json.ofOption Json.str r.contentType),
    ("allow", Json.ofOption Json.str r.allow), ("body", body)]

/-- A reply with a body. -/
def Response.withBody (status : Nat) (body : Body) : Response :=
  { status, contentType := body.contentType, body }

/-- The procedures that can be called. -/
inductive Procedure where
  | consoleGetConfiguration
  | authenticateApiKey
  | getProject
deriving DecidableEq, Repr

/-- The path of the service that the procedures belong to. -/
def backendService : String := "/portier.backend.v1.BackendService"

namespace Procedure

/-- All procedures. -/
def all : List Procedure := [consoleGetConfiguration, authenticateApiKey, getProject]

/-- The name of a procedure within its service. -/
def name : Procedure → String
  | consoleGetConfiguration => "ConsoleGetConfiguration"
  | authenticateApiKey => "AuthenticateApiKey"
  | getProject => "GetProject"

/-- The path of a procedure, by which the gate knows it. -/
def path (p : Procedure) : String :=
  backendService ++ "/" ++ p.name

end Procedure

/-- Where a request can go. -/
inductive Route where
  | call (p : Procedure)
  /-- The public keys of the project that a segment of the path names. -/
  | sessionPublicKeys (segment : String)
  | health
deriving DecidableEq, Repr

/-- The path of a target. -/
def pathOf (target : String) : String :=
  String.ofList (target.toList.takeWhile fun c => c != '?' && c != '#')

namespace Route

/-- The segment of a path that names a project, if the path asks for public keys. -/
def keysSegment? (path : String) : Option String :=
  match (path.toList.splitOn '/').map String.ofList with
  | ["", "v1", "projects", segment, "session-public-keys"] =>
    if segment = "" then none else some segment
  | _ => none

/-- The route of a path. -/
def ofPath? (path : String) : Option Route :=
  match Procedure.all.find? (·.path == path) with
  | some p => some (call p)
  | none =>
    if path = "/health" then some health else (keysSegment? path).map sessionPublicKeys

/-- The methods that a route knows. -/
def methods : Route → List String
  | call _ => ["POST"]
  | sessionPublicKeys _ => ["GET", "HEAD"]
  | health => ["GET", "HEAD"]

end Route

/-! ## Segments -/

/-- The bytes of a segment: a percent sign with two digits after it stands for a byte. -/
def percentDecoded : List Char → Bytes
  | '%' :: hi :: lo :: rest =>
    match Hex.digitValue? hi, Hex.digitValue? lo with
    | some h, some l => UInt8.ofNat (16 * h + l) :: percentDecoded rest
    | _, _ => 0x25 :: percentDecoded (hi :: lo :: rest)
  | c :: rest => String.utf8EncodeChar c ++ percentDecoded rest
  | [] => []

/-- The text of a segment. -/
def segmentText? (segment : String) : Option String :=
  Utf8.text? (percentDecoded segment.toList)

end Api

/-- What the interface works with. -/
structure Api (σ : Type) where
  gate : Gate σ
  /-- The project that operates the service. -/
  consoleProjectId : Uuid

namespace Api

variable {σ ε : Type}

/-- The reply to a failed request. Internal failures are logged. -/
def failed (e : ApiError) : Call σ ε Response := do
  match e with
  | .internal detail =>
    .emit { level := .error, target := "portier_api::error", message := "Internal API error",
            fields := [("error", .text detail)] }
  | _ => pure ()
  return .withBody e.status (.json e.body.toJson)

/-- The reply that a handler's outcome gives. -/
def respond (handler : Call σ ApiError Json) : Call σ ε Response := do
  match ← handler.attempt with
  | .ok j => return .withBody 200 (.json j)
  | .error e => failed e

/-! ## Handlers -/

/-- The identity of a call that needs one. -/
def identityOf (ctx : CallContext) : Call σ ApiError Identity :=
  match ctx.identity with
  | some identity => return identity
  | none => .fail (.internal ctx.noIdentity)

/-- Tells which project operates the service. -/
def consoleGetConfiguration (api : Api σ) : Call σ ApiError Json :=
  return (ConsoleConfiguration.mk (IdFormat.project.format api.consoleProjectId)).toJson

/-- Tells who the caller is. -/
def authenticateApiKey (ctx : CallContext) : Call σ ApiError Json := do
  let identity ← identityOf ctx
  return (CallerIdentity.ofIdentity identity).toJson

/-- Tells about the caller's project. -/
def getProject (ctx : CallContext) : Call σ ApiError Json := do
  let identity ← identityOf ctx
  let project ← (Store.getProject identity.projectId).mapError .ofStore
  return (GetProjectResponse.mk (.ofProject project)).toJson

/-- The handler of a procedure. -/
def handle (api : Api σ) (p : Procedure) (ctx : CallContext) : Call σ ApiError Json :=
  match p with
  | .consoleGetConfiguration => api.consoleGetConfiguration
  | .authenticateApiKey => authenticateApiKey ctx
  | .getProject => getProject ctx

/-- Tells the public keys of the project that an external id names. An unknown project has none to
tell, rather than an empty set. -/
def sessionPublicKeys [Wording] (projectId : String) (now : Int) : Call σ ApiError Json := do
  let id ← Call.ofExcept ((IdFormat.project.parse projectId).mapError .ofInvalidId)
  let _ ← (Store.getProject id).mapError ApiError.ofStore
  let keys ← (SigningKeys.activePublicKeys id now).mapError .ofSession
  return (JwkSet.mk (keys.map (·.toJwk))).toJson

/-! ## Routing -/

/-- The reply to a method that a route does not know. -/
def methodNotAllowed : Response := .withBody 405 .empty

/-- The sign of life. -/
def alive : Response := .withBody 200 (.json (Json.obj [("status", Json.str "ok")]))

/-- The reply to a segment that is no text. -/
def unreadableSegment : Response :=
  .withBody 400 (.text "Invalid URL: Invalid UTF-8 in \x60project_id\x60")

/-- A reply that names the methods of its route, if the request's method is none of them. -/
def naming (route : Route) (method : String) (r : Response) : Response :=
  if route.methods.contains method then r
  else { r with allow := some (",".intercalate route.methods) }

/-- A reply without its body if only its head was asked for. -/
def headOnly (method : String) (r : Response) : Response :=
  if method = "HEAD" then { r with body := .empty } else r

/-- What is done with the calls that the gate lets through. -/
abbrev Handlers (σ : Type) := Procedure → CallContext → Call σ ApiError Json

/-- Serves a call of a procedure: the gate decides first, by the path that was asked for, then the
method. -/
def serveCall (gate : Gate σ) (handlers : Handlers σ) (p : Procedure) (r : Request) :
    Call σ ε Response := do
  match ← (gate.authenticate (pathOf r.target) r.headers).attempt with
  | .error e => failed (.ofAuth e)
  | .ok ctx =>
    if r.method = "POST" then respond (handlers p ctx) else return methodNotAllowed

variable [Wording]

/-- Serves a route. -/
def serveRoute (gate : Gate σ) (handlers : Handlers σ) (route : Route) (r : Request) (now : Int) :
    Call σ ε Response :=
  match route with
  | .call p => serveCall gate handlers p r
  | .health =>
    if route.methods.contains r.method then return alive else return methodNotAllowed
  | .sessionPublicKeys segment =>
    if route.methods.contains r.method then
      match segmentText? segment with
      | some projectId => respond (sessionPublicKeys projectId now)
      | none => return unreadableSegment
    else return methodNotAllowed

/-- Serves a request with given handlers. -/
def serveWith (gate : Gate σ) (handlers : Handlers σ) (r : Request) (now : Int) :
    Call σ ε Response := do
  match Route.ofPath? (pathOf r.target) with
  | none => return headOnly r.method (.withBody 404 .empty)
  | some route =>
    let response ← serveRoute gate handlers route r now
    return headOnly r.method (naming route r.method response)

/-- Serves a request. -/
def serve (api : Api σ) (r : Request) (now : Int) : Call σ ε Response :=
  serveWith api.gate api.handle r now

end Api
end Gatehouse
