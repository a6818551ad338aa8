import Gatehouse.Proofs.Api.Reply
import Gatehouse.Proofs.Store.Tenant

/-!
# Tenants do not see each other

What the interface tells a holder of an API key about its project, and what it publishes about the
project, is a function of the project's own part of the tables. So it is the same before and after
anything that happens to other projects. The project behind a good credential exists, since keys
belong to projects and sessions to organizations that manage one; so its holder is told about it.
-/

namespace Gatehouse

open Store (Reachable Elsewhere)

/-! ## What the gate makes of a stored key -/

namespace Gate

/-- What the gate makes of a key whose secret was presented. -/
def keyVerdict (procedure : String) (key : ApiKey) : Except AuthError Identity :=
  let identity := .apiKey ⟨key.id, key.projectId, key.authenticationOnly⟩
  if key.revoked then .error .unauthenticated
  else if permits procedure identity then .ok identity
  else .error .permissionDenied

theorem projectId_of_keyVerdict {procedure : String} {key : ApiKey} {identity : Identity}
    (h : keyVerdict procedure key = .ok identity) : identity.projectId = key.projectId := by
  rw [keyVerdict] at h
  split at h
  · cases h
  · split at h
    · obtain rfl := Except.ok.inj h
      rfl
    · cases h

/-- The decision about a secret is read off the row that has its digest. -/
theorem bearerVerdict_of_row {db : Database} (hdb : db.Conforms) {row : ApiKeyRow} {key : ApiKey}
    {secret : Uuid} (hrow : row ∈ db.apiKeys) (hkey : row.Holds key)
    (hdigest : row.secretDigest = ApiKeys.digest secret) (procedure : String) :
    bearerVerdict procedure (presented secret) db = keyVerdict procedure key := by
  obtain ⟨text, htext, hsecret⟩ := eq_presented_iff.1 (rfl : presented secret = presented secret)
  have hfound : db.findApiKey (ApiKeys.digest secret) = .ok (some key) := by
    rw [← hdigest]
    exact hdb.findApiKey_of_mem hrow hkey
  have hholder : ApiKeys.holder (IdFormat.apiKeySecret.format secret) db =
      if key.revoked then .error .unauthenticated
      else .ok ⟨key.id, key.projectId, key.authenticationOnly⟩ := by
    rw [ApiKeys.holder, IdFormat.parse_format]
    dsimp only
    rw [hfound]
    rfl
  rw [bearerVerdict, htext]
  dsimp only
  rw [textVerdict, hsecret]
  dsimp only
  rw [hholder, keyVerdict]
  split
  · rfl
  · rfl

end Gate

/-! ## Whom a credential stands for -/

/-- A secret belongs to an API key of a project, which may be revoked. -/
def HasKey (db : Database) (id secret : Uuid) : Prop :=
  ∃ row ∈ db.apiKeys, row.projectId = id.text ∧ row.secretDigest = ApiKeys.digest secret

section Parts

variable {db db' : Database} {id secret : Uuid}

/-- A key of a project is in the project's part of the tables. -/
theorem exists_apiKey_tenant (hdb : db.Conforms) (h : HasKey db id secret) :
    ∃ row ∈ (db.tenant id).apiKeys, ∃ key : ApiKey, row.Holds key ∧ key.projectId = id ∧
      row.secretDigest = ApiKeys.digest secret := by
  obtain ⟨row, hrow, hproject, hdigest⟩ := h
  obtain ⟨key, hkey⟩ := hdb.exists_holds hrow
  have hid : key.projectId = id := Uuid.text_injective (hkey.projectId.symm.trans hproject)
  exact ⟨row, Database.mem_apiKeys_tenant.2 ⟨hrow, hproject⟩, key, hkey, hid, hdigest⟩

/-- The project of a key that is opened exists. -/
theorem mem_ids_of_opens {key : ApiKeyIdentity} (hdb : db.Conforms)
    (h : ApiKeys.Opens db secret key) : key.projectId.text ∈ db.projects.map (·.id) := by
  obtain ⟨row, hrow, -, -, -, hproject, -⟩ := h
  rw [← hproject]
  exact hdb.apiKeyParents row hrow

/-- The project in a verified session is the one that the session's organization manages. -/
theorem backs_of_verdict [Wording] {config : TokenConfig} {consoleProjectId : Uuid} {token : String}
    {now : Int} {identity : SessionIdentity} (hdb : db.Conforms)
    (h : SessionToken.verdict config consoleProjectId token now db = .ok identity) :
    SessionToken.Backs db identity.organizationId identity.projectId := by
  -- The lookup of the project is the last step, and the only one that matters here.
  simp only [SessionToken.verdict, Traversal.bind_eq_ok_iff] at h
  obtain ⟨_, -, _, -, _, -, claims, -, _, -, _, -, ⟨userId, sessionId, organizationId⟩, -,
    project, hproject, hidentity⟩ := h
  obtain rfl := Except.ok.inj hidentity
  by_cases hbacks : ∃ found, SessionToken.Backs db organizationId found
  · obtain ⟨found, hfound⟩ := hbacks
    rw [SessionToken.backing_of_backs hdb hfound] at hproject
    obtain rfl := Except.ok.inj hproject
    exact hfound
  · rw [SessionToken.backing_of_not_backs hdb (not_exists.1 hbacks)] at hproject
    cases hproject

/-! ## What is told about a project -/

namespace Api

theorem projectTold_congr (h : db'.tenant id = db.tenant id) :
    projectTold id db' = projectTold id db := by
  have hread : db'.getProject id = db.getProject id := by
    rw [← Database.getProject_tenant, h, Database.getProject_tenant]
  rw [projectTold, projectTold, hread]

/-- A caller who acts on a project is told what the project's part of the tables gives. -/
theorem handled_congr (h : db'.tenant id = db.tenant id) (consoleProjectId : Uuid) (p : Procedure)
    {ctx : CallContext} (hctx : ∀ identity, ctx.identity = some identity →
      identity.projectId = id) :
    handled consoleProjectId p ctx db' = handled consoleProjectId p ctx db := by
  cases p with
  | consoleGetConfiguration => rfl
  | authenticateApiKey => rfl
  | getProject =>
    rw [handled, handled, callerOf]
    cases hidentity : ctx.identity with
    | none => rfl
    | some identity =>
      show projectTold identity.projectId db' = projectTold identity.projectId db
      rw [hctx identity hidentity]
      exact projectTold_congr h

/-- The public keys of a project are published from its part of the tables. -/
theorem published_congr [Wording] (h : db'.tenant id = db.tenant id) (now : Int) :
    published (IdFormat.project.format id) now db' =
      published (IdFormat.project.format id) now db := by
  have hproject : db'.getProject id = db.getProject id := by
    rw [← Database.getProject_tenant, h, Database.getProject_tenant]
  have hkeys : SessionToken.activeKeys id now db' = SessionToken.activeKeys id now db := by
    rw [SessionToken.activeKeys, SessionToken.activeKeys, ← Database.activeSigningKeys_tenant, h,
      Database.activeSigningKeys_tenant]
  rw [published, published, IdFormat.parse_format]
  show ((db'.getProject id).mapError _ >>= _) = ((db.getProject id).mapError _ >>= _)
  rw [hproject, hkeys]

/-- A project that exists is told about, under its external id. -/
theorem exists_projectTold (hdb : db.Conforms) (h : id.text ∈ db.projects.map (·.id)) :
    ∃ view : ProjectView, view.id = IdFormat.project.format id ∧
      projectTold id db = .ok (GetProjectResponse.mk view).toJson := by
  obtain ⟨project, hread, hid⟩ := hdb.exists_getProject h
  refine ⟨.ofProject project, congrArg IdFormat.project.format hid, ?_⟩
  rw [projectTold, hread]
  rfl

end Api

/-! ## Replies -/

namespace Server

open Api Gate

variable [Wording]

/-- A caller with a key of a project gets the same reply from any tables in which the project's part
is the same, at any time. -/
theorem replyToCall_congr (s : Server) {p : Procedure} {r : Request} {now now' : Int}
    (hdb : db.Conforms) (hdb' : db'.Conforms) (h : db'.tenant id = db.tenant id)
    (hkey : HasKey db id secret) (hbearer : TakesBearer r.headers (presented secret)) :
    s.replyToCall p r now' db' = s.replyToCall p r now db := by
  obtain ⟨row, hrow, key, hholds, hproject, hdigest⟩ := exists_apiKey_tenant hdb hkey
  have hrow' : row ∈ (db'.tenant id).apiKeys := h ▸ hrow
  have hverdict := bearerVerdict_of_row hdb (Database.mem_apiKeys_tenant.1 hrow).1 hholds hdigest
  have hverdict' :=
    bearerVerdict_of_row hdb' (Database.mem_apiKeys_tenant.1 hrow').1 hholds hdigest
  -- The gate decides by the key alone, in both tables.
  have hdecision : ∀ procedure, decision s.tokens s.consoleProjectId now procedure r.headers db =
      if skipProcedures.contains procedure then .ok ⟨procedure, none⟩
      else contextOf procedure (keyVerdict procedure key) := by
    intro procedure
    rw [decision, identityOf_of_takesBearer hbearer, hverdict]
  have hdecision' : ∀ procedure,
      decision s.tokens s.consoleProjectId now' procedure r.headers db' =
        if skipProcedures.contains procedure then .ok ⟨procedure, none⟩
        else contextOf procedure (keyVerdict procedure key) := by
    intro procedure
    rw [decision, identityOf_of_takesBearer hbearer, hverdict']
  rw [replyToCall, replyToCall, hdecision, hdecision']
  split
  · rfl
  · rename_i ctx hctx
    have hcaller : ∀ identity, ctx.identity = some identity → identity.projectId = id := by
      intro identity hidentity
      split at hctx
      · obtain rfl := Except.ok.inj hctx
        cases hidentity
      · cases hfound : keyVerdict (pathOf r.target) key with
        | error e =>
          rw [hfound] at hctx
          cases hctx
        | ok found =>
          rw [hfound] at hctx
          obtain rfl := Except.ok.inj hctx
          obtain rfl := Option.some.inj hidentity
          exact (projectId_of_keyVerdict hfound).trans hproject
    rw [handled_congr h s.consoleProjectId p hcaller]

/-- A caller whom the gate knows as somebody who acts on a project that exists is told about it. -/
theorem exists_reply_getProject (s : Server) {r : Request} {now : Int} {identity : Identity}
    (hdb : db.Conforms) (hroute : Route.ofPath? (pathOf r.target) = some (.call .getProject))
    (hmethod : r.method = "POST")
    (hidentity : Gate.identityOf s.tokens s.consoleProjectId now (pathOf r.target) r.headers db =
      .ok identity)
    (hproject : identity.projectId.text ∈ db.projects.map (·.id)) :
    ∃ view : ProjectView, view.id = IdFormat.project.format identity.projectId ∧
      s.reply r now db = .withBody 200 (.json (GetProjectResponse.mk view).toJson) := by
  obtain ⟨view, hid, htold⟩ := exists_projectTold hdb hproject
  have hdecision : decision s.tokens s.consoleProjectId now (pathOf r.target) r.headers db =
      .ok ⟨pathOf r.target, some identity⟩ := by
    rw [s.decision_of_call hroute nofun, hidentity]
    rfl
  have hhandled : handled s.consoleProjectId .getProject ⟨pathOf r.target, some identity⟩ db =
      .ok (GetProjectResponse.mk view).toJson := htold
  refine ⟨view, hid, ?_⟩
  rw [s.reply_of_call hroute, replyToCall, hdecision]
  dsimp only
  rw [if_pos hmethod, hhandled, hmethod]
  rfl

/-- The holder of a key for all procedures is told about the key's project. -/
theorem exists_reply_of_opens (s : Server) {r : Request} {now : Int} {keyId : Uuid}
    (hdb : db.Conforms) (hroute : Route.ofPath? (pathOf r.target) = some (.call .getProject))
    (hmethod : r.method = "POST") (hopens : ApiKeys.Opens db secret ⟨keyId, id, false⟩)
    (hbearer : TakesBearer r.headers (presented secret)) :
    ∃ view : ProjectView, view.id = IdFormat.project.format id ∧
      s.reply r now db = .withBody 200 (.json (GetProjectResponse.mk view).toJson) := by
  have hpermits : permits (pathOf r.target) (.apiKey ⟨keyId, id, false⟩) = true :=
    permits_apiKey_iff.2 (.inl rfl)
  have hidentity : Gate.identityOf s.tokens s.consoleProjectId now (pathOf r.target) r.headers db =
      .ok (.apiKey ⟨keyId, id, false⟩) := by
    rw [identityOf_of_takesBearer hbearer,
      bearerVerdict_of_presents hdb _ ⟨secret, rfl, hopens⟩, if_pos hpermits]
  have hreply := s.exists_reply_getProject hdb hroute hmethod hidentity (mem_ids_of_opens hdb hopens)
  exact hreply

/-- A person with a verified session is told about the project in it. -/
theorem exists_reply_of_verdict (s : Server) {r : Request} {now : Int} {token : String}
    {identity : SessionIdentity} (hdb : db.Conforms)
    (hroute : Route.ofPath? (pathOf r.target) = some (.call .getProject))
    (hmethod : r.method = "POST") (hcookie : TakesCookie r.headers) (hne : token ≠ "")
    (hlast : Cookie.last? (r.headers.values "cookie") (cookieName s.consoleProjectId) = some token)
    (hverdict : SessionToken.verdict s.tokens s.consoleProjectId token now db = .ok identity) :
    ∃ view : ProjectView, view.id = IdFormat.project.format identity.projectId ∧
      s.reply r now db = .withBody 200 (.json (GetProjectResponse.mk view).toJson) := by
  have hidentity : Gate.identityOf s.tokens s.consoleProjectId now (pathOf r.target) r.headers db =
      .ok (.ofSession identity) := by
    rw [identityOf_of_takesCookie hcookie, cookieVerdict, hlast]
    dsimp only
    rw [if_neg hne, tokenVerdict, hverdict]
    rfl
  obtain ⟨row, hrow, -, hid⟩ := backs_of_verdict hdb hverdict
  have hexists : identity.projectId.text ∈ db.projects.map (·.id) :=
    List.mem_map.2 ⟨row, hrow, hid⟩
  have hreply := s.exists_reply_getProject hdb hroute hmethod hidentity hexists
  exact hreply

end Server

end Parts

/-! ## Isolation -/

namespace Api

open Gate Server

variable {σ : Type} {w w' : World σ}

/-- **Tenants are isolated.** Operations that do not name a project make no difference to the replies
that its API keys get, nor to the public keys that are published for it at a time. In every reachable
state the holder of a key for all procedures is told about the key's project, and a person with a
verified session about the project that the session's organization manages. -/
theorem tenant_isolation [Wording] (s : Server) (hw : Reachable w.tables) (id : Uuid)
    (helsewhere : Elsewhere id w w') :
    (∀ (r : Request) (p : Procedure) (secret : Uuid) (now now' : Int),
        Route.ofPath? (pathOf r.target) = some (.call p) → HasKey w.tables id secret →
        TakesBearer r.headers (presented secret) →
        ((s.answer r now').run w').1 = ((s.answer r now).run w).1) ∧
      (∀ (r : Request) (segment : String) (now : Int),
        Route.ofPath? (pathOf r.target) = some (.sessionPublicKeys segment) →
        segmentText? segment = some (IdFormat.project.format id) →
        ((s.answer r now).run w').1 = ((s.answer r now).run w).1) ∧
      (∀ (r : Request) (secret keyId : Uuid) (now : Int),
        Route.ofPath? (pathOf r.target) = some (.call .getProject) → r.method = "POST" →
        ApiKeys.Opens w.tables secret ⟨keyId, id, false⟩ →
        TakesBearer r.headers (presented secret) →
        ∃ view : ProjectView, view.id = IdFormat.project.format id ∧
          ((s.answer r now).run w).1 =
            .ok (.withBody 200 (.json (GetProjectResponse.mk view).toJson))) ∧
      (∀ (r : Request) (token : String) (identity : SessionIdentity) (now : Int),
        Route.ofPath? (pathOf r.target) = some (.call .getProject) → r.method = "POST" →
        TakesCookie r.headers → token ≠ "" →
        Cookie.last? (r.headers.values "cookie") (cookieName s.consoleProjectId) = some token →
        ((SessionToken.verify s.tokens s.consoleProjectId token now).run w).1 = .ok identity →
        SessionToken.Backs w.tables identity.organizationId identity.projectId ∧
        ∃ view : ProjectView, view.id = IdFormat.project.format identity.projectId ∧
          ((s.answer r now).run w).1 =
            .ok (.withBody 200 (.json (GetProjectResponse.mk view).toJson))) := by
  have hdb := hw.conforms
  have hdb' := (helsewhere.reachable hw).conforms
  have hsame := helsewhere.tenant hw
  have hanswer : ∀ r now, ((s.answer r now).run w).1 = .ok (s.reply r now w.tables) :=
    fun r now => (reads_answer s r now w).1
  have hanswer' : ∀ r now, ((s.answer r now).run w').1 = .ok (s.reply r now w'.tables) :=
    fun r now => (reads_answer s r now w').1
  refine ⟨?_, ?_, ?_, ?_⟩
  · intro r p secret now now' hroute hkey hbearer
    rw [hanswer, hanswer', s.reply_of_call hroute, s.reply_of_call hroute,
      s.replyToCall_congr hdb hdb' hsame hkey hbearer]
  · intro r segment now hroute hsegment
    rw [hanswer, hanswer', reply, reply, hroute]
    dsimp only
    rw [replyOn, replyOn, hsegment]
    dsimp only
    rw [published_congr hsame]
  · intro r secret keyId now hroute hmethod hopens hbearer
    rw [hanswer]
    obtain ⟨view, hid, hreply⟩ := s.exists_reply_of_opens hdb hroute hmethod hopens hbearer
    exact ⟨view, hid, congrArg Except.ok hreply⟩
  · intro r token identity now hroute hmethod hcookie hne hlast hverify
    rw [(SessionToken.reads_verify s.tokens s.consoleProjectId token now w).1] at hverify
    rw [hanswer]
    obtain ⟨view, hid, hreply⟩ :=
      s.exists_reply_of_verdict hdb hroute hmethod hcookie hne hlast hverify
    exact ⟨backs_of_verdict hdb hverify, view, hid, congrArg Except.ok hreply⟩

/-- A key of the console for all procedures, with the secret 7. -/
def machineKey : NewApiKey := { sampleKey with authenticationOnly := false }

/-- A console with this key. -/
def machineWorld : World Unit where
  tables := (Store.Command.createApiKey machineKey).after Store.sampleConsole.tables
  protector := ()

/-- The request of the key's holder. -/
def machineRequest : Request :=
  Procedure.getProject.calling [("authorization", presented (.ofNat 7))]

/-- Another tenant asks for the key to be revoked, under its own project's id. The key's holder is
told about the project before and after, in the same words. -/
theorem tenant_isolation_machineKey :
    let s : Server := ⟨"", .ofNat 1, {}⟩
    let attempt : Store.Command := .revokeApiKey (.ofNat 9) (.ofNat 6)
    (∃ view : ProjectView, view.id = IdFormat.project.format (.ofNat 1) ∧
        ((s.answer machineRequest 0).run machineWorld).1 =
          .ok (.withBody 200 (.json (GetProjectResponse.mk view).toJson))) ∧
      ((s.answer machineRequest 0).run (attempt.call.run machineWorld).2).1 =
        ((s.answer machineRequest 0).run machineWorld).1 := by
  intro s attempt
  have hconsole := Store.reachable_tables Store.sampleConsole rfl
  have hfits := fits_sampleConsole (rfl : machineKey.projectId = .ofNat 1)
  have hopens : ApiKeys.Opens machineWorld.tables (.ofNat 7) ⟨.ofNat 6, .ofNat 1, false⟩ :=
    opens_after_createApiKey hconsole.conforms hfits rfl
  have hkey : HasKey machineWorld.tables (.ofNat 1) (.ofNat 7) := by
    obtain ⟨row, hrow, hdigest, -, -, hproject, -⟩ := hopens
    exact ⟨row, hrow, hproject, hdigest⟩
  have helsewhere : Elsewhere (.ofNat 1) machineWorld (attempt.call.run machineWorld).2 :=
    .write attempt (by decide) .refl
  obtain ⟨hreplies, -, htold, -⟩ :=
    tenant_isolation s (w := machineWorld) (.step _ hconsole) (.ofNat 1) helsewhere
  constructor
  · exact htold _ _ _ 0 (Procedure.route_calling _ _) rfl hopens (takesBearer_presented _)
  · exact hreplies _ _ _ 0 0 (Procedure.route_calling _ _) hkey (takesBearer_presented _)

end Api
end Gatehouse
