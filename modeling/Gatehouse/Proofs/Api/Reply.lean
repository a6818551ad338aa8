import Gatehouse.Command.Server
import Gatehouse.Proofs.Auth.Gate

/-!
# Replies as functions of the tables

A server changes nothing when it answers. Its reply is a function of the request, the time and the
tables, and it always replies.
-/

namespace Gatehouse

namespace Gate

/-- What the gate of a service decides about a call. -/
def decision [Wording] (config : TokenConfig) (consoleProjectId : Uuid) (now : Int)
    (procedure : String) (headers : Http.Headers) (db : Database) : Except AuthError CallContext :=
  if skipProcedures.contains procedure then .ok ⟨procedure, none⟩
  else contextOf procedure (identityOf config consoleProjectId now procedure headers db)

theorem reads_decision [Wording] {σ : Type} (config : TokenConfig) (consoleProjectId : Uuid)
    (now : Int) (procedure : String) (headers : Http.Headers) :
    Call.Reads ((ofServices (σ := σ) config consoleProjectId now).authenticate procedure headers)
      (decision config consoleProjectId now procedure headers) := by
  by_cases hskip : skipProcedures.contains procedure
  · have hdecision : decision config consoleProjectId now procedure headers =
        fun _ => .ok ⟨procedure, none⟩ := by
      funext db
      rw [decision, if_pos hskip]
    rw [authenticate, if_pos hskip, hdecision]
    exact Call.reads_pure _
  · have hprocedure : procedure ∉ skipProcedures := by
      rwa [← List.contains_iff_mem]
    have hdecision : decision config consoleProjectId now procedure headers =
        fun db => contextOf procedure
          (identityOf config consoleProjectId now procedure headers db) := by
      funext db
      rw [decision, if_neg hskip]
    rw [hdecision]
    exact reads_authenticate config consoleProjectId now hprocedure headers

end Gate

namespace Api

/-! ## Paths -/

/-- A request is routed to a procedure by exactly the path that the gate knows it by. -/
theorem Route.eq_path_of_call {path : String} {p : Procedure}
    (h : Route.ofPath? path = some (.call p)) : path = p.path := by
  rw [Route.ofPath?] at h
  cases hfind : Procedure.all.find? (·.path == path) with
  | some q =>
    rw [hfind] at h
    obtain rfl : q = p := by
      simpa using h
    have hmatch := List.find?_some hfind
    exact (beq_iff_eq.1 hmatch).symm
  | none =>
    -- The other paths are those of other routes.
    rw [hfind] at h
    dsimp only at h
    split at h
    · cases h
    · obtain ⟨segment, -, hcall⟩ := Option.map_eq_some_iff.1 h
      cases hcall

/-- A call of a procedure with some headers. -/
def Procedure.calling (p : Procedure) (headers : Http.Headers) : Request where
  method := "POST"
  target := p.path
  headers

theorem Procedure.route_calling (p : Procedure) (headers : Http.Headers) :
    Route.ofPath? (pathOf (p.calling headers).target) = some (.call p) := by
  show Route.ofPath? (pathOf p.path) = some (.call p)
  cases p <;> decide +kernel

/-- One procedure needs no authentication, and the gate's list says so of its path alone. -/
theorem Procedure.path_mem_skipProcedures_iff {p : Procedure} :
    p.path ∈ Gate.skipProcedures ↔ p = .consoleGetConfiguration := by
  cases p <;> decide +kernel

variable {σ ε : Type}

/-! ## Statuses -/

@[simp] theorem status_naming (route : Route) (method : String) (r : Response) :
    (naming route method r).status = r.status := by
  rw [naming]
  split <;> rfl

@[simp] theorem status_headOnly (method : String) (r : Response) :
    (headOnly method r).status = r.status := by
  rw [headOnly]
  split <;> rfl

/-! ## Outcomes and replies -/

/-- The reply to a failure. -/
def failure (e : ApiError) : Response :=
  .withBody e.status (.json e.body.toJson)

/-- The reply to an outcome. -/
def replyTo : Except ApiError Json → Response
  | .ok j => .withBody 200 (.json j)
  | .error e => failure e

theorem reads_failed (e : ApiError) :
    Call.Reads (failed e : Call σ ε Response) fun _ => .ok (failure e) := by
  -- An internal failure is told to the log, any other is not.
  cases e with
  | internal detail => exact (Call.reads_pure (failure (.internal detail))).emit_bind _
  | unauthenticated => exact Call.reads_pure _
  | permissionDenied => exact Call.reads_pure _
  | invalidArgument detail => exact Call.reads_pure _
  | notFound detail => exact Call.reads_pure _

theorem reads_respond {handler : Call σ ApiError Json} {f : Database → Except ApiError Json}
    (h : Call.Reads handler f) :
    Call.Reads (respond handler : Call σ ε Response) fun db => .ok (replyTo (f db)) := by
  refine h.attempt.bind (h := fun r _ => .ok (replyTo r)) fun r => ?_
  cases r with
  | ok j => exact Call.reads_pure _
  | error e => exact reads_failed e

/-! ## Handlers -/

/-- The identity of a call that needs one, or what is said where it has none. -/
def callerOf (ctx : CallContext) : Except ApiError Identity :=
  match ctx.identity with
  | some identity => .ok identity
  | none => .error (.internal ctx.noIdentity)

theorem reads_identityOf (ctx : CallContext) :
    Call.Reads (identityOf (σ := σ) ctx) fun _ => callerOf ctx := by
  rw [identityOf]
  unfold callerOf
  cases ctx.identity with
  | none => exact Call.reads_fail _
  | some identity => exact Call.reads_pure _

/-- A project as its callers are told about it. -/
def projectTold (id : Uuid) (db : Database) : Except ApiError Json := do
  let project ← (db.getProject id).mapError .ofStore
  return (GetProjectResponse.mk (.ofProject project)).toJson

/-- What the handler of a procedure makes of a call. -/
def handled (consoleProjectId : Uuid) (p : Procedure) (ctx : CallContext) (db : Database) :
    Except ApiError Json :=
  match p with
  | .consoleGetConfiguration =>
    .ok (ConsoleConfiguration.mk (IdFormat.project.format consoleProjectId)).toJson
  | .authenticateApiKey => callerOf ctx >>= fun i => .ok (CallerIdentity.ofIdentity i).toJson
  | .getProject => callerOf ctx >>= fun i => projectTold i.projectId db

theorem reads_handle (api : Api σ) (p : Procedure) (ctx : CallContext) :
    Call.Reads (api.handle p ctx) (handled api.consoleProjectId p ctx) := by
  cases p with
  | consoleGetConfiguration => exact Call.reads_pure _
  | authenticateApiKey =>
    exact (reads_identityOf ctx).bind fun i => Call.reads_pure (CallerIdentity.ofIdentity i).toJson
  | getProject =>
    refine (reads_identityOf ctx).bind fun i => ?_
    exact ((Store.reads_read _).mapError _).bind fun _ => Call.reads_pure _

/-- The public keys of the project that a text names. -/
def published [Wording] (projectId : String) (now : Int) (db : Database) :
    Except ApiError Json := do
  let id ← (IdFormat.project.parse projectId).mapError .ofInvalidId
  let _ ← (db.getProject id).mapError ApiError.ofStore
  let keys ← (SessionToken.activeKeys id now db).mapError .ofSession
  return (JwkSet.mk (keys.map (·.toJwk))).toJson

theorem reads_sessionPublicKeys [Wording] (projectId : String) (now : Int) :
    Call.Reads (sessionPublicKeys (σ := σ) projectId now) (published projectId now) := by
  refine (Call.reads_ofExcept _).bind fun id => ?_
  refine ((Store.reads_read _).mapError _).bind fun _ => ?_
  exact ((SessionToken.reads_activePublicKeys id now).mapError _).bind fun _ => Call.reads_pure _

end Api

/-! ## Answers -/

namespace Server

open Api

variable [Wording] {σ : Type}

/-- The reply to a call of a procedure. -/
def replyToCall (s : Server) (p : Procedure) (r : Request) (now : Int) (db : Database) :
    Response :=
  match Gate.decision s.tokens s.consoleProjectId now (pathOf r.target) r.headers db with
  | .error e => failure (.ofAuth e)
  | .ok ctx =>
    if r.method = "POST" then replyTo (handled s.consoleProjectId p ctx db) else methodNotAllowed

/-- The reply of a route, before the method is looked at again. -/
def replyOn (s : Server) (route : Route) (r : Request) (now : Int) (db : Database) : Response :=
  match route with
  | .call p => s.replyToCall p r now db
  | .health => if route.methods.contains r.method then alive else methodNotAllowed
  | .sessionPublicKeys segment =>
    if route.methods.contains r.method then
      match segmentText? segment with
      | some projectId => replyTo (published projectId now db)
      | none => unreadableSegment
    else methodNotAllowed

/-- The reply to a request. -/
def reply (s : Server) (r : Request) (now : Int) (db : Database) : Response :=
  match Route.ofPath? (pathOf r.target) with
  | none => headOnly r.method (.withBody 404 .empty)
  | some route => headOnly r.method (naming route r.method (s.replyOn route r now db))

section Calls

variable (s : Server) {r : Request} {p : Procedure}

theorem reply_of_call (hroute : Route.ofPath? (pathOf r.target) = some (.call p)) (now : Int)
    (db : Database) : s.reply r now db =
      headOnly r.method (naming (.call p) r.method (s.replyToCall p r now db)) := by
  rw [reply, hroute]
  rfl

/-- The gate looks for the identity behind a call of a procedure that needs one. -/
theorem decision_of_call (hroute : Route.ofPath? (pathOf r.target) = some (.call p))
    (hp : p ≠ .consoleGetConfiguration) (now : Int) (db : Database) :
    Gate.decision s.tokens s.consoleProjectId now (pathOf r.target) r.headers db =
      Gate.contextOf (pathOf r.target)
        (Gate.identityOf s.tokens s.consoleProjectId now (pathOf r.target) r.headers db) := by
  have hskip : ¬ Gate.skipProcedures.contains (pathOf r.target) := by
    rw [List.contains_iff_mem, Route.eq_path_of_call hroute, Procedure.path_mem_skipProcedures_iff]
    exact hp
  rw [Gate.decision, if_neg hskip]

end Calls

section Reads

variable (s : Server) (r : Request) (now : Int)

theorem reads_serveCall (p : Procedure) :
    Call.Reads (serveCall (s.gate now) (Api.handle ⟨s.gate now, s.consoleProjectId⟩) p r :
      Call σ Failure Response) fun db => .ok (s.replyToCall p r now db) := by
  have hgate := Gate.reads_decision (σ := σ) s.tokens s.consoleProjectId now (pathOf r.target)
    r.headers
  refine (hgate.attempt.bind (h := fun outcome db => .ok (match outcome with
    | .error e => failure (.ofAuth e)
    | .ok ctx =>
      if r.method = "POST" then replyTo (handled s.consoleProjectId p ctx db)
      else methodNotAllowed)) fun outcome => ?_)
  cases outcome with
  | error e => exact reads_failed _
  | ok ctx =>
    dsimp only
    split
    · exact reads_respond (reads_handle _ p ctx)
    · exact Call.reads_pure _

theorem reads_serveRoute (route : Route) :
    Call.Reads (serveRoute (s.gate now) (Api.handle ⟨s.gate now, s.consoleProjectId⟩) route r now :
      Call σ Failure Response) fun db => .ok (s.replyOn route r now db) := by
  cases route with
  | call p => exact reads_serveCall s r now p
  | health =>
    dsimp only [serveRoute, replyOn]
    split
    · exact Call.reads_pure _
    · exact Call.reads_pure _
  | sessionPublicKeys segment =>
    dsimp only [serveRoute, replyOn]
    split
    · cases segmentText? segment with
      | none => exact Call.reads_pure _
      | some projectId => exact reads_respond (reads_sessionPublicKeys projectId now)
    · exact Call.reads_pure _

/-- A server replies to every request, and changes no table. -/
theorem reads_answer :
    Call.Reads (s.answer r now : Call σ Failure Response) fun db => .ok (s.reply r now db) := by
  rw [answer, serve, serveWith]
  unfold reply
  cases Route.ofPath? (pathOf r.target) with
  | none => exact Call.reads_pure _
  | some route => exact (reads_serveRoute s r now route).bind fun _ => Call.reads_pure _

end Reads

end Server
end Gatehouse
