import Gatehouse.Proofs.Api.Reply
import Gatehouse.Proofs.Session.Tokens

/-!
# Refusals tell nothing

Whatever is wrong with a credential, a call with it is refused with one and the same reply, and
whatever has failed inside, the reply to it has one and the same body. The reasons go to the log.
-/

namespace Gatehouse

/-! ## Servers as they start -/

/-- A server that has started allows no leeway to clocks. -/
theorem Server.leeway_of_start [Wording] {σ : Type} (host : Host σ) (o : ServerOptions) :
    Call.Yields (start host o) fun s => s.tokens.leeway = 0 := by
  -- The project's id, two notes, the configuration, the key service, a note, the store, the project.
  refine Call.yields_bind fun _ => Call.yields_bind fun _ => Call.yields_bind fun _ => ?_
  refine Call.yields_bind fun _ => Call.yields_bind fun _ => Call.yields_bind fun _ => ?_
  refine Call.yields_bind fun _ => Call.yields_bind fun _ => ?_
  have hlistening : ∀ (message : String) (fields : Log.Fields) (s : Server),
      s.tokens.leeway = 0 →
      Call.Yields (note message fields >>= fun _ => pure s : Call σ Failure Server)
        fun s => s.tokens.leeway = 0 :=
    fun _ _ _ h => Call.yields_bind fun _ => Call.yields_pure h
  dsimp only
  split
  · exact Call.yields_bind fun _ => hlistening _ _ _ rfl
  · exact hlistening _ _ _ rfl

namespace Api

open Gate

variable {σ ε : Type}

/-! ## Invalid credentials -/

/-- A request has no valid credential on the path that its headers put it on: its first
authorization value presents no key that opens, or its last session cookie is no acceptable token. A
header that is missing or no text, an unknown or revoked secret, and a token that fails any of its
checks are all cases of this. -/
structure NoCredential [Wording] (s : Server) (r : Request) (now : Int) (db : Database) : Prop where
  bearer : ∀ value, TakesBearer r.headers value → ∀ key, ¬ Presents db value key
  cookie : TakesCookie r.headers → ∀ token,
    Cookie.last? (r.headers.values "cookie") (cookieName s.consoleProjectId) = some token →
    token ≠ "" → ∀ userId sessionId organizationId, ¬ SessionToken.Accepted s.tokens db
      s.consoleProjectId now token userId sessionId organizationId

section Refused

variable [Wording] {s : Server} {r : Request} {now : Int} {db : Database}

theorem identityOf_of_noCredential (hdb : db.Conforms)
    (hkeys : SessionToken.KeysReadable db s.consoleProjectId now)
    (hleeway : s.tokens.leeway < Limit.bits63) (h : NoCredential s r now db) (procedure : String) :
    Gate.identityOf s.tokens s.consoleProjectId now procedure r.headers db =
      .error .unauthenticated := by
  by_cases hbearer : ∃ value, TakesBearer r.headers value
  · obtain ⟨value, hvalue⟩ := hbearer
    rw [identityOf_of_takesBearer hvalue]
    exact bearerVerdict_of_not_presents hdb procedure (h.bearer value hvalue)
  · have hcookie : TakesCookie r.headers := by
      intro value hfirst
      by_contra hvalue
      exact hbearer ⟨value, hfirst, hvalue⟩
    rw [identityOf_of_takesCookie hcookie, cookieVerdict]
    cases hlast : Cookie.last? (r.headers.values "cookie") (cookieName s.consoleProjectId) with
    | none => rfl
    | some token =>
      dsimp only
      by_cases hempty : token = ""
      · rw [if_pos hempty]
      · -- Verification fails, and does not say at which check.
        rw [if_neg hempty, tokenVerdict, SessionToken.verdict_of_not_accepted hdb hkeys hleeway
          (h.cookie hcookie token hlast hempty)]
        rfl

theorem reply_of_noCredential (hdb : db.Conforms)
    (hkeys : SessionToken.KeysReadable db s.consoleProjectId now)
    (hleeway : s.tokens.leeway < Limit.bits63) (h : NoCredential s r now db) {p : Procedure}
    (hroute : Route.ofPath? (pathOf r.target) = some (.call p)) (hp : p ≠ .consoleGetConfiguration)
    (hmethod : r.method = "POST") : s.reply r now db = failure .unauthenticated := by
  have hdecision : decision s.tokens s.consoleProjectId now (pathOf r.target) r.headers db =
      .error .unauthenticated := by
    rw [s.decision_of_call hroute hp, identityOf_of_noCredential hdb hkeys hleeway h]
    rfl
  rw [s.reply_of_call hroute, Server.replyToCall, hdecision, hmethod]
  rfl

end Refused

/-! ## Internal failures -/

/-- The body of every reply to an internal failure. -/
def internalBody : Body := .json (ErrorBody.mk "internal" "internal error").toJson

/-- A reply to an internal failure says so, and nothing else. -/
def Discreet (response : Response) : Prop :=
  response.status = 500 → response.body = internalBody

theorem discreet_withBody {status : Nat} (body : Body) (h : status ≠ 500) :
    Discreet (.withBody status body) :=
  fun hstatus => absurd hstatus h

theorem discreet_failure (e : ApiError) : Discreet (failure e) := by
  cases e with
  | internal detail => exact fun _ => rfl
  | unauthenticated => exact discreet_withBody _ (by decide)
  | permissionDenied => exact discreet_withBody _ (by decide)
  | invalidArgument detail => exact discreet_withBody _ (show 400 ≠ 500 by decide)
  | notFound detail => exact discreet_withBody _ (show 404 ≠ 500 by decide)

theorem discreet_failed (e : ApiError) : Call.Yields (failed e : Call σ ε Response) Discreet := by
  intro w response h
  rw [(reads_failed e w).1] at h
  obtain rfl := Except.ok.inj h
  exact discreet_failure e

theorem discreet_respond (handler : Call σ ApiError Json) :
    Call.Yields (respond handler : Call σ ε Response) Discreet := by
  refine Call.yields_bind fun outcome => ?_
  cases outcome with
  | ok j => exact Call.yields_pure (discreet_withBody _ (by decide))
  | error e => exact discreet_failed e

theorem discreet_serveRoute [Wording] (gate : Gate σ) (handlers : Handlers σ) (route : Route)
    (r : Request) (now : Int) :
    Call.Yields (serveRoute gate handlers route r now : Call σ ε Response) Discreet := by
  have hmethod : Call.Yields (pure methodNotAllowed : Call σ ε Response) Discreet :=
    Call.yields_pure (discreet_withBody _ (by decide))
  cases route with
  | call p =>
    refine Call.yields_bind fun outcome => ?_
    cases outcome with
    | error e => exact discreet_failed _
    | ok ctx =>
      dsimp only
      split
      · exact discreet_respond _
      · exact hmethod
  | health =>
    dsimp only [serveRoute]
    split
    · exact Call.yields_pure (discreet_withBody _ (by decide))
    · exact hmethod
  | sessionPublicKeys segment =>
    dsimp only [serveRoute]
    split
    · cases segmentText? segment with
      | none => exact Call.yields_pure (discreet_withBody _ (by decide))
      | some projectId => exact discreet_respond _
    · exact hmethod

/-- Whatever the gate and the handlers do, and whatever they fail with. -/
theorem discreet_serveWith [Wording] (gate : Gate σ) (handlers : Handlers σ) {r : Request}
    (now : Int) (hmethod : r.method ≠ "HEAD") :
    Call.Yields (serveWith gate handlers r now : Call σ ε Response) Discreet := by
  have hwhole : ∀ response, headOnly r.method response = response :=
    fun _ => if_neg hmethod
  rw [serveWith]
  cases Route.ofPath? (pathOf r.target) with
  | none =>
    refine Call.yields_pure ?_
    rw [hwhole]
    exact discreet_withBody _ (by decide)
  | some route =>
    intro w response h
    rcases hserved : (serveRoute gate handlers route r now : Call σ ε Response).run w with
      ⟨e | served, mid⟩
    · rw [Call.run_bind_of_error hserved] at h
      cases h
    · rw [Call.run_bind_of_ok hserved, hwhole] at h
      obtain rfl := Except.ok.inj h
      have hdiscreet : Discreet served :=
        discreet_serveRoute gate handlers route r now w served (congrArg Prod.fst hserved)
      -- The methods of the route may be put beside the body, which stays as it is.
      intro hstatus
      rw [status_naming] at hstatus
      rw [naming]
      split
      · exact hdiscreet hstatus
      · exact hdiscreet hstatus

/-! ## No oracle -/

/-- **Rejections give no oracle.** In all states of the service, all calls of procedures that need a
credential get one and the same refusal if they have no valid one, whatever is wrong with it, as
long as the server's leeway fits clocks. All servers that start are like that. And all replies to
internal failures have one and the same body, in any state of the store, whatever the gate and the
handlers do and wherever the failure comes from. -/
theorem refusals_alike [Wording] :
    (∃ refused : Response, refused.status = 401 ∧
      ∀ (σ : Type) (p : KeyProtector σ) (s : Server) (w : World σ) (r : Request) (now : Int)
        (procedure : Procedure), Service.Reachable p w.tables → s.tokens.leeway < Limit.bits63 →
        r.method = "POST" → Route.ofPath? (pathOf r.target) = some (.call procedure) →
        procedure ≠ .consoleGetConfiguration → NoCredential s r now w.tables →
        ((s.answer r now).run w).1 = .ok refused) ∧
      (∀ (σ : Type) (host : Host σ) (o : ServerOptions),
        Call.Yields (Server.start host o) fun s => s.tokens.leeway < Limit.bits63) ∧
      ∃ body : Body, ∀ (σ : Type) (gate : Gate σ) (handlers : Handlers σ) (r : Request) (now : Int)
        (w : World σ) (response : Response), r.method ≠ "HEAD" →
        ((serveWith gate handlers r now : Call σ Failure Response).run w).1 = .ok response →
        response.status = 500 → response.body = body := by
  refine ⟨?_, ?_, ?_⟩
  · refine ⟨failure .unauthenticated, rfl, ?_⟩
    intro σ p s w r now procedure hw hleeway hmethod hroute hprocedure hinvalid
    rw [(Server.reads_answer s r now w).1]
    exact congrArg Except.ok (reply_of_noCredential hw.store.conforms
      (hw.keysReadable s.consoleProjectId now) hleeway hinvalid hroute hprocedure hmethod)
  · intro σ host o w s hstart
    rw [Server.leeway_of_start host o w s hstart]
    decide
  · refine ⟨internalBody, ?_⟩
    intro σ gate handlers r now w response hmethod hanswer hstatus
    exact discreet_serveWith gate handlers now hmethod w response hanswer hstatus

/-- Tables without the one that API keys are looked up in. -/
def keyless : World Unit := { tables := { missing := [.apiKeys] }, protector := () }

/-- Where no key can be looked up, a secret leads to an internal failure. -/
theorem reply_keyless [Wording] (s : Server) (secret : Uuid) (now : Int) : ∃ detail,
    s.reply (Procedure.getProject.calling [("authorization", presented secret)]) now
      keyless.tables = failure (.internal detail) := by
  obtain ⟨text, htext, hsecret⟩ := eq_presented_iff.1 (rfl : presented secret = presented secret)
  have hverdict : ∀ procedure, ∃ detail,
      bearerVerdict procedure (presented secret) keyless.tables = .error (.internal detail) := by
    intro procedure
    rw [bearerVerdict, htext]
    dsimp only
    rw [textVerdict, hsecret]
    dsimp only
    rw [ApiKeys.holder, IdFormat.parse_format]
    exact ⟨_, rfl⟩
  let r := Procedure.getProject.calling [("authorization", presented secret)]
  have hroute : Route.ofPath? (pathOf r.target) = some (.call .getProject) :=
    Procedure.route_calling _ _
  have hbearer : TakesBearer r.headers (presented secret) := takesBearer_presented secret
  obtain ⟨detail, hdetail⟩ := hverdict (pathOf r.target)
  refine ⟨detail, ?_⟩
  have hother : Procedure.getProject ≠ .consoleGetConfiguration := by decide
  rw [s.reply_of_call hroute, Server.replyToCall, s.decision_of_call hroute hother,
    identityOf_of_takesBearer hbearer, hdetail]
  rfl

/-- A call without any headers and one with a header that is no text are refused alike. A secret that
cannot be looked up and a handler that fails on its own are answered alike. -/
theorem refusals_alike_samples :
    let s : Server := ⟨"", .ofNat 1, {}⟩
    let w := SessionToken.sampleWorld
    let broken : Handlers Unit := fun _ _ => .fail (.internal "out of memory")
    ((s.answer (Procedure.getProject.calling []) 0).run w).1 =
        ((s.answer (Procedure.authenticateApiKey.calling [("authorization", [0xff])]) 0).run w).1 ∧
      ∃ response response' : Response,
        ((s.answer (Procedure.getProject.calling [("authorization", presented (.ofNat 7))]) 0).run
          keyless).1 = .ok response ∧
        ((serveWith (s.gate 0) broken (Procedure.consoleGetConfiguration.calling []) 0 :
          Call Unit Failure Response).run w).1 = .ok response' ∧
        response.body = response'.body := by
  intro s w broken
  obtain ⟨⟨refused, -, hrefused⟩, -, body, hbody⟩ := refusals_alike
  have hbare : NoCredential s (Procedure.getProject.calling []) 0 w.tables := by
    refine ⟨fun value hvalue => ?_, fun _ token hlast => ?_⟩
    · cases hvalue.1
    · cases hlast
  have hunreadable : NoCredential s (Procedure.authenticateApiKey.calling
      [("authorization", [0xff])]) 0 w.tables := by
    have hfirst : Http.Headers.first? [("authorization", [0xff])] "authorization" = some [0xff] := by
      decide +kernel
    refine ⟨fun value hvalue key hpresents => ?_, fun hcookie => ?_⟩
    · obtain rfl := Option.some.inj (hfirst.symm.trans hvalue.1)
      obtain ⟨secret, hsecret, -⟩ := hpresents
      obtain ⟨text, htext, -⟩ := eq_presented_iff.1 hsecret
      cases htext
    · exact absurd (hcookie _ hfirst) (List.cons_ne_nil _ _)
  have hreachable := SessionToken.reachable_sampleWorld
  have hleeway : s.tokens.leeway < Limit.bits63 := by decide
  constructor
  · have hfirst := hrefused _ _ s w _ 0 _ hreachable hleeway rfl
      (Procedure.route_calling .getProject []) nofun hbare
    have hsecond := hrefused _ _ s w _ 0 _ hreachable hleeway rfl
      (Procedure.route_calling .authenticateApiKey _) nofun hunreadable
    exact hfirst.trans hsecond.symm
  · obtain ⟨detail, hreply⟩ := reply_keyless s (.ofNat 7) 0
    have hanswer := (Server.reads_answer s
      (Procedure.getProject.calling [("authorization", presented (.ofNat 7))]) 0 keyless).1
    dsimp only at hanswer
    rw [hreply] at hanswer
    have hbroken : ((serveWith (s.gate 0) broken (Procedure.consoleGetConfiguration.calling []) 0 :
        Call Unit Failure Response).run w).1 = .ok (failure (.internal "out of memory")) := by
      rw [serveWith, Procedure.route_calling]
      rfl
    refine ⟨_, _, hanswer, hbroken, ?_⟩
    have hfirst := hbody _ (s.gate 0) _ _ 0 keyless _ (by decide) hanswer rfl
    have hsecond := hbody _ (s.gate 0) broken _ 0 w _ (by decide) hbroken rfl
    exact hfirst.trans hsecond.symm

end Api
end Gatehouse
