import Gatehouse.Proofs.Api.Reply

/-!
# Handlers behind the gate

A handler runs for a call only if the gate has let the call through, and only with what the gate has
found. This is said by putting other handlers in the place of the ones there are: they make no
difference as long as they do the same with what the gate lets through. So what a handler would do
without an identity is never seen, and neither is any handler by a call that the gate rejects.
-/

namespace Gatehouse

variable {σ ε : Type}

/-! ## What the gate lets through -/

/-- A gate lets a call through with the procedure that it was asked about, and with an identity
unless the procedure needs none. -/
theorem Gate.yields_authenticate (gate : Gate σ) (procedure : String) (headers : Http.Headers) :
    Call.Yields (gate.authenticate procedure headers) fun ctx =>
      ctx.procedure = procedure ∧ (procedure ∉ skipProcedures → ctx.identity ≠ none) := by
  rw [authenticate]
  split
  · rename_i hskip
    exact Call.yields_pure ⟨rfl, fun hneeds => absurd (List.contains_iff_mem.1 hskip) hneeds⟩
  · refine Call.Yields.inSpan ?_ _
    refine Call.yields_bind fun identity => Call.yields_bind fun _ => ?_
    exact Call.yields_pure ⟨rfl, fun _ => Option.some_ne_none identity⟩

namespace Api

/-- A request makes the gate let a call of a procedure through: what the gate has found, and the
world it leaves to the handler. -/
structure Admitted (gate : Gate σ) (r : Request) (w : World σ) (p : Procedure) (ctx : CallContext)
    (mid : World σ) : Prop where
  route : Route.ofPath? (pathOf r.target) = some (.call p)
  method : r.method = "POST"
  passed : (gate.authenticate (pathOf r.target) r.headers).run w = (.ok ctx, mid)

section Admitted

variable {gate : Gate σ} {r : Request} {w mid : World σ} {p : Procedure} {ctx : CallContext}

/-- What a handler gets is about its own procedure, and has an identity if the procedure needs
one. -/
theorem Admitted.context (h : Admitted gate r w p ctx mid) :
    ctx.procedure = p.path ∧ (p ≠ .consoleGetConfiguration → ctx.identity ≠ none) := by
  obtain ⟨hprocedure, hidentity⟩ :=
    gate.yields_authenticate (pathOf r.target) r.headers w ctx (congrArg Prod.fst h.passed)
  -- The path that the gate was asked about is the one that the procedure is routed by.
  rw [Route.eq_path_of_call h.route] at hprocedure hidentity
  refine ⟨hprocedure, fun hneeds => hidentity ?_⟩
  rw [Procedure.path_mem_skipProcedures_iff]
  exact hneeds

end Admitted

/-! ## Other handlers -/

section Handlers

variable {gate : Gate σ} {handlers handlers' : Handlers σ} {r : Request} {w : World σ}

theorem run_respond_congr {handler handler' : Call σ ApiError Json} {w : World σ}
    (h : handler.run w = handler'.run w) :
    (respond handler : Call σ ε Response).run w = (respond handler').run w := by
  rw [respond, respond, Call.run_bind, Call.run_bind, Call.run_attempt, Call.run_attempt, h]

theorem run_serveCall_congr {p : Procedure}
    (hroute : Route.ofPath? (pathOf r.target) = some (.call p))
    (h : ∀ ctx mid, Admitted gate r w p ctx mid →
      (handlers p ctx).run mid = (handlers' p ctx).run mid) :
    (serveCall gate handlers p r : Call σ ε Response).run w =
      (serveCall gate handlers' p r).run w := by
  rw [serveCall, serveCall, Call.run_bind, Call.run_bind, Call.run_attempt]
  rcases hgate : (gate.authenticate (pathOf r.target) r.headers).run w with ⟨e | ctx, mid⟩
  · rfl
  · dsimp only
    by_cases hmethod : r.method = "POST"
    · rw [if_pos hmethod, if_pos hmethod]
      exact run_respond_congr (h ctx mid ⟨hroute, hmethod, hgate⟩)
    · rw [if_neg hmethod, if_neg hmethod]

/-- Handlers that do the same with what the gate lets through give the same answer, whatever else
they might do. -/
theorem run_serveWith_congr [Wording] (now : Int)
    (h : ∀ p ctx mid, Admitted gate r w p ctx mid →
      (handlers p ctx).run mid = (handlers' p ctx).run mid) :
    (serveWith gate handlers r now : Call σ ε Response).run w =
      (serveWith gate handlers' r now).run w := by
  rw [serveWith, serveWith]
  cases hroute : Route.ofPath? (pathOf r.target) with
  | none => rfl
  | some route =>
    have hserve : (serveRoute gate handlers route r now : Call σ ε Response).run w =
        (serveRoute gate handlers' route r now).run w := by
      -- Only procedures have handlers.
      cases route with
      | call p => exact run_serveCall_congr hroute (h p)
      | health => rfl
      | sessionPublicKeys segment => rfl
    dsimp only
    rw [Call.run_bind, Call.run_bind, hserve]

/-- A call that the gate rejects is answered by the gate's failure. -/
theorem run_serveWith_of_rejected [Wording] (handlers : Handlers σ) (now : Int) {p : Procedure}
    {e : AuthError} {mid : World σ} (hroute : Route.ofPath? (pathOf r.target) = some (.call p))
    (hrejected : (gate.authenticate (pathOf r.target) r.headers).run w = (.error e, mid)) :
    ((serveWith gate handlers r now : Call σ ε Response).run w).1 =
        .ok (headOnly r.method (naming (.call p) r.method (failure (.ofAuth e)))) ∧
      ((serveWith gate handlers r now : Call σ ε Response).run w).2.tables = mid.tables := by
  have hfailed := reads_failed (σ := σ) (ε := ε) (.ofAuth e) mid
  have hcall : (serveCall gate handlers p r : Call σ ε Response).run w =
      (failed (.ofAuth e)).run mid := by
    rw [serveCall, Call.run_bind, Call.run_attempt, hrejected]
  have hrun : (serveCall gate handlers p r : Call σ ε Response).run w =
      (.ok (failure (.ofAuth e)), ((failed (.ofAuth e) : Call σ ε Response).run mid).2) := by
    rw [hcall]
    exact Prod.ext hfailed.1 rfl
  rw [serveWith, hroute]
  dsimp only
  rw [serveRoute, Call.run_bind_of_ok hrun]
  exact ⟨rfl, hfailed.2⟩

end Handlers

/-! ## Mediation -/

section Refused

open Gate

variable [Wording] (s : Server) {r : Request} (now : Int) {w : World σ}

/-- A call that the server's gate rejects changes no table. -/
theorem tables_of_rejected {e : AuthError} {mid : World σ}
    (hrejected : ((s.gate now).authenticate (pathOf r.target) r.headers).run w = (.error e, mid)) :
    mid.tables = w.tables := by
  have hreads : Call.Reads ((s.gate now : Gate σ).authenticate (pathOf r.target) r.headers) _ :=
    reads_decision s.tokens s.consoleProjectId now (pathOf r.target) r.headers
  have hkept := (hreads w).2
  rwa [hrejected] at hkept

/-- A key for authentication is not let through to the procedure that tells about the project. -/
theorem run_authenticate_of_authenticationOnly (hdb : w.tables.Conforms)
    {secret keyId projectId : Uuid}
    (hopens : ApiKeys.Opens w.tables secret ⟨keyId, projectId, true⟩)
    (hbearer : TakesBearer r.headers (presented secret))
    (hroute : Route.ofPath? (pathOf r.target) = some (.call .getProject)) :
    ∃ mid, ((s.gate now).authenticate (pathOf r.target) r.headers).run w =
      (.error .permissionDenied, mid) := by
  have hforbidden : ¬ permits (pathOf r.target) (.apiKey ⟨keyId, projectId, true⟩) := by
    rw [permits_apiKey_iff, Route.eq_path_of_call hroute]
    rintro (honly | hlisted)
    · cases honly
    · exact absurd hlisted (by decide +kernel)
  have hdecision : decision s.tokens s.consoleProjectId now (pathOf r.target) r.headers w.tables =
      .error .permissionDenied := by
    rw [s.decision_of_call hroute nofun, identityOf_of_takesBearer hbearer,
      bearerVerdict_of_presents hdb _ ⟨secret, rfl, hopens⟩, if_neg hforbidden]
    rfl
  have hreads : Call.Reads ((s.gate now : Gate σ).authenticate (pathOf r.target) r.headers) _ :=
    reads_decision s.tokens s.consoleProjectId now (pathOf r.target) r.headers
  exact ⟨_, Prod.ext ((hreads w).1.trans hdecision) rfl⟩

end Refused

open Gate in
/-- **The gate mediates all calls.** A handler gets what the gate has found about a call of its own
procedure, and an identity in it if the procedure needs one. Other handlers give the same answer if
they do the same with that, so nothing else ever reaches a handler; in particular it makes no
difference what handlers do where an identity is missing. A call that the gate rejects is answered by
the gate's failure whatever the handlers do, and changes no table. The secret of a stored key for
authentication, as long as it is not revoked, gets nothing but a refusal from the procedure that
tells about the project. -/
theorem handlers_behind_gate [Wording] (s : Server) (r : Request) (now : Int) {w : World σ}
    (hw : Store.Reachable w.tables) :
    let gate : Gate σ := s.gate now
    let actual : Handlers σ := Api.handle ⟨gate, s.consoleProjectId⟩
    let answerBy (handlers : Handlers σ) : Call σ Failure Response := serveWith gate handlers r now
    (∀ p ctx mid, Admitted gate r w p ctx mid →
        ctx.procedure = p.path ∧ (p ≠ .consoleGetConfiguration → ctx.identity ≠ none)) ∧
      (∀ handlers : Handlers σ,
        (∀ p ctx mid, Admitted gate r w p ctx mid →
          (handlers p ctx).run mid = (actual p ctx).run mid) →
        (answerBy handlers).run w = (s.answer r now).run w) ∧
      (∀ handlers : Handlers σ,
        (∀ p ctx, p = .consoleGetConfiguration ∨ ctx.identity ≠ none →
          handlers p ctx = actual p ctx) →
        (answerBy handlers).run w = (s.answer r now).run w) ∧
      (∀ p e mid, Route.ofPath? (pathOf r.target) = some (.call p) →
        (gate.authenticate (pathOf r.target) r.headers).run w = (.error e, mid) →
        ∀ handlers : Handlers σ,
          ((answerBy handlers).run w).1 =
              .ok (headOnly r.method (naming (.call p) r.method (failure (.ofAuth e)))) ∧
            ((answerBy handlers).run w).2.tables = w.tables) ∧
      (∀ secret keyId projectId, ApiKeys.Opens w.tables secret ⟨keyId, projectId, true⟩ →
        TakesBearer r.headers (presented secret) →
        Route.ofPath? (pathOf r.target) = some (.call .getProject) →
        ∃ response, ((s.answer r now).run w).1 = .ok response ∧ response.status = 403) := by
  intro gate actual answerBy
  refine ⟨?_, ?_, ?_, ?_, ?_⟩
  · exact fun p ctx mid hadmitted => hadmitted.context
  · exact fun handlers h => run_serveWith_congr now h
  · intro handlers h
    refine run_serveWith_congr now fun p ctx mid hadmitted => ?_
    have hidentity : p = .consoleGetConfiguration ∨ ctx.identity ≠ none := by
      by_cases hp : p = .consoleGetConfiguration
      · exact .inl hp
      · exact .inr (hadmitted.context.2 hp)
    rw [h p ctx hidentity]
  · intro p e mid hroute hrejected handlers
    obtain ⟨hreply, htables⟩ := run_serveWith_of_rejected (ε := Failure) handlers now hroute
      hrejected
    exact ⟨hreply, htables.trans (tables_of_rejected s now hrejected)⟩
  · intro secret keyId projectId hopens hbearer hroute
    obtain ⟨mid, hrejected⟩ :=
      run_authenticate_of_authenticationOnly s now hw.conforms hopens hbearer hroute
    obtain ⟨hreply, -⟩ := run_serveWith_of_rejected (ε := Failure) actual now hroute hrejected
    refine ⟨_, hreply, ?_⟩
    rw [status_headOnly, status_naming]
    rfl

/-- Handlers that forget to look for an identity, and tell the world about the console instead. -/
def carelessHandlers : Handlers Unit := fun p ctx =>
  match ctx.identity with
  | none => return Json.str "console"
  | some _ => Api.handle ⟨(Server.mk "" (.ofNat 1) {}).gate 0, .ofNat 1⟩ p ctx

/-- The holder of a key for authentication asks for the project and is refused. Handlers that forget
about identities would not have made a difference. -/
theorem handlers_behind_gate_sampleKey :
    let s : Server := ⟨"", .ofNat 1, {}⟩
    let w : World Unit := { tables := Gate.sampleTables, protector := () }
    let r := Procedure.getProject.calling [("authorization", Gate.presented (.ofNat 7))]
    (∃ response, ((s.answer r 0).run w).1 = .ok response ∧ response.status = 403) ∧
      (serveWith (s.gate 0) carelessHandlers r 0).run w = (s.answer r 0).run w := by
  intro s w r
  have hroute : Route.ofPath? (pathOf r.target) = some (.call .getProject) :=
    Procedure.route_calling _ _
  obtain ⟨hadmitted, hsame, -, -, hrefused⟩ :=
    handlers_behind_gate s r 0 (w := w) Gate.reachable_sampleTables
  refine ⟨hrefused _ _ _ Gate.opens_sampleTables (Gate.takesBearer_presented _) hroute, ?_⟩
  refine hsame carelessHandlers fun p ctx mid h => ?_
  -- The call is one of a procedure that needs an identity, so there is one.
  obtain rfl : p = .getProject := by
    have hcall := h.route.symm.trans hroute
    injection hcall with hcall
    injection hcall
  have hidentity := (hadmitted _ _ _ h).2 nofun
  rw [carelessHandlers]
  split
  · rename_i hnone
    exact absurd hnone hidentity
  · rfl

end Api
end Gatehouse
