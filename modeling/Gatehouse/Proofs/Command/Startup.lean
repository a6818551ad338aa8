import Gatehouse.Proofs.Api.Refusal
import Gatehouse.Proofs.Session.Persistence
import Gatehouse.Proofs.Store.Reopening

/-!
# What a server trusts

A server is started for a project, and from then on that project vouches for every session in a
cookie. The project has to be in the store, and nothing else is asked of it: a server starts for a
tenant as it does for the console, and then takes sessions from that tenant and reports it.
-/

namespace Gatehouse

variable {σ : Type} {db db' : Database}

/-! ## The opening of the store -/

namespace Store

/-- Whether a store can be opened, by what stands in its way. -/
def opening : Option Obstacle → Except StoreError Unit
  | none => .ok ()
  | some o => .error o.failure

theorem opening_eq_ok_iff {obstacle : Option Obstacle} :
    opening obstacle = .ok () ↔ obstacle = none := by
  cases obstacle <;> simp [opening]

/-- The opening of a store leaves tables that are all there as they are. -/
theorem readsOn_openIn (directory : String) (obstacle : Option Obstacle) :
    Call.ReadsOn (·.missing = []) (openIn directory obstacle : Call σ StoreError Unit)
      fun _ => opening obstacle := by
  intro w hw
  cases obstacle with
  | none =>
    rw [openIn, run_openWith (fun db => .ok db.reopen) directory rfl]
    exact ⟨rfl, reopen_of_complete hw⟩
  | some o => cases o <;> exact ⟨rfl, rfl⟩

end Store

/-! ## Later tables -/

/-- A project and whether it is the console. -/
def ProjectRow.role (p : ProjectRow) : String × Bool :=
  (p.id, p.isConsole)

theorem Statement.Harmless.role {change : ProjectRow → ProjectRow} (h : Harmless change)
    (p : ProjectRow) : (change p).role = p.role := by
  rw [ProjectRow.role, h.id, h.isConsole]
  rfl

namespace Store

/-- The tables that operations lead to from some tables. -/
inductive Leads (start : Database) : Database → Prop where
  | refl : Leads start start
  | step {db : Database} (c : Command) (h : Leads start db) : Leads start (c.after db)

theorem Leads.reachable (h : Leads db db') (hdb : Reachable db) : Reachable db' := by
  induction h with
  | refl => exact hdb
  | step c _ ih => exact .step c ih

/-- Projects stay, and none becomes the console or ceases to be it. -/
theorem Leads.roles (h : Leads db db') (hdb : Reachable db) :
    db.projects.map ProjectRow.role <+: db'.projects.map ProjectRow.role := by
  induction h with
  | refl => exact List.prefix_rfl
  | step c h ih =>
    exact ih.trans (c.map_projects_after (fun _ h => h.role) (h.reachable hdb).conforms)

theorem Leads.exists_project (h : Leads db db') (hdb : Reachable db) {p : ProjectRow}
    (hp : p ∈ db.projects) : ∃ q ∈ db'.projects, q.id = p.id ∧ q.isConsole = p.isConsole := by
  obtain ⟨q, hq, hrole⟩ := List.mem_map.1 ((h.roles hdb).mem (List.mem_map_of_mem hp))
  exact ⟨q, hq, (Prod.mk.inj hrole).1, (Prod.mk.inj hrole).2⟩

end Store

/-! ## The start of a server -/

/-- A project can be read exactly if there is a row with its id. -/
theorem Database.Conforms.exists_project_iff (hdb : db.Conforms) {id : Uuid} :
    (∃ p ∈ db.projects, p.id = id.text) ↔ ∃ project, db.getProject id = .ok project := by
  constructor
  · rintro ⟨row, hrow, hid⟩
    obtain ⟨_, _, -, -, hrecord⟩ := hdb.getProject_of_some (hdb.project?_of_mem hrow hid)
    exact ⟨_, hrecord⟩
  · rintro ⟨project, hread⟩
    obtain ⟨row, hrow, hid, -⟩ := hdb.exists_row_of_getProject hread
    exact ⟨row, hrow, hid⟩

theorem Command.reads_connectKms [Wording] (host : Host σ) (context : String) (config : KmsConfig) :
    Call.Reads (connectKms host context config) fun _ =>
      (KmsClient.connect host.cloud config).mapError fun e => .because context e.message := by
  rw [connectKms]
  cases KmsClient.connect host.cloud config with
  | error e => exact Call.reads_fail _
  | ok client => exact Call.Reads.emit_bind (c := fun _ => pure client) (Call.reads_pure client) _

namespace Server

variable [Wording]

/-- What comes of starting a server. -/
def started (host : Host σ) (o : ServerOptions) (db : Database) : Except Failure Server := do
  let id ← (IdFormat.project.parse o.consoleProjectId).mapError fun e =>
    .because "invalid --console-project-id" e.message
  let config ← (KmsConfig.ofOptions o.kms).mapError fun e =>
    .because "invalid session signing key KMS configuration" e.message
  let _ ← (KmsClient.connect host.cloud config).mapError fun e =>
    .because "failed to build session signing key KMS client" e.message
  (Store.opening (host.obstacle o.directory)).mapError fun e =>
    .because "failed to open database" e.message
  let _ ← (db.getProject id).mapError fun e =>
    .because "console project not found; run \x60portierctl bootstrap\x60 first" e.message
  match addressProblem? o.bind <|> host.listenProblem o.bind with
  | some problem => .error (.because ("failed to bind " ++ o.bind) problem)
  | none => .ok {
      bind := o.bind, consoleProjectId := id
      tokens := { audienceRootDomain := o.rootDomain, accessTokenTtl := o.accessTokenTtl } }

theorem readsOn_start (host : Host σ) (o : ServerOptions) :
    Call.ReadsOn (·.missing = []) (start host o) (started host o) := by
  unfold started
  refine ((Call.reads_ofExcept _).mapError _).on.bind fun id => ?_
  refine Call.ReadsOn.emit_bind (Call.ReadsOn.emit_bind ?_ _) _
  refine ((Call.reads_ofExcept _).mapError _).on.bind fun config => ?_
  refine (Command.reads_connectKms host _ config).on.bind fun _ => ?_
  refine Call.ReadsOn.emit_bind ?_ _
  refine ((Store.readsOn_openIn o.directory _).mapError _).bind fun _ => ?_
  refine ((Store.reads_read _).mapError _).on.bind fun _ => ?_
  dsimp only
  cases addressProblem? o.bind <|> host.listenProblem o.bind with
  | some problem => exact (Call.reads_fail _).on
  | none =>
    refine Call.ReadsOn.emit_bind ?_ _
    exact (Call.reads_pure _).on

/-- Everything that a server looks at before it listens, and what it becomes then. Of the project
that it is started for it asks that the store holds it, and no more. -/
structure Ready (host : Host σ) (o : ServerOptions) (db : Database) (s : Server) : Prop where
  named : o.consoleProjectId = IdFormat.project.format s.consoleProjectId
  stored : ∃ p ∈ db.projects, p.id = s.consoleProjectId.text
  connected : ∃ config client, KmsConfig.ofOptions o.kms = .ok config ∧
    KmsClient.connect host.cloud config = .ok client
  unobstructed : host.obstacle o.directory = none
  listening : (addressProblem? o.bind <|> host.listenProblem o.bind) = none
  bind : s.bind = o.bind
  tokens : s.tokens = { audienceRootDomain := o.rootDomain, accessTokenTtl := o.accessTokenTtl }

/-- A server listens exactly if everything that it looks at is in order. -/
theorem started_eq_ok_iff (hdb : db.Conforms) {host : Host σ} {o : ServerOptions} {s : Server} :
    started host o db = .ok s ↔ Ready host o db s := by
  rw [started]
  simp only [Traversal.bind_eq_ok_iff, Traversal.mapError_eq_ok_iff]
  constructor
  · rintro ⟨id, hid, config, hconfig, client, hclient, _, hopening, project, hproject, hlast⟩
    cases hproblem : addressProblem? o.bind <|> host.listenProblem o.bind with
    | some problem =>
      rw [hproblem] at hlast
      cases hlast
    | none =>
      rw [hproblem] at hlast
      obtain rfl := Except.ok.inj hlast
      exact ⟨IdFormat.parse_eq_ok_iff.1 hid, hdb.exists_project_iff.2 ⟨project, hproject⟩,
        ⟨config, client, hconfig, hclient⟩, Store.opening_eq_ok_iff.1 hopening, hproblem, rfl, rfl⟩
  · intro h
    obtain ⟨config, client, hconfig, hclient⟩ := h.connected
    obtain ⟨project, hproject⟩ := hdb.exists_project_iff.1 h.stored
    refine ⟨_, IdFormat.parse_eq_ok_iff.2 h.named, config, hconfig, client, hclient, (), ?_,
      project, hproject, ?_⟩
    · exact Store.opening_eq_ok_iff.2 h.unobstructed
    · rw [h.listening, ← h.bind, ← h.tokens]

end Server

/-! ## Sessions -/

namespace SessionToken

variable {c : TokenConfig} {projectId : Uuid} {now : Int} {token : String}

theorem keysReadable_of_activeKeys [Wording] (hdb : db.Conforms) {keys : List SessionPublicKey}
    (h : activeKeys projectId now db = .ok keys) : KeysReadable db projectId now := by
  obtain ⟨records, hrecords, hrows⟩ := hdb.activeSigningKeys projectId now
  rw [activeKeys, hrecords] at h
  intro row hrow
  rw [← hrows] at hrow
  obtain ⟨record, hrecord, rfl⟩ := List.mem_map.1 hrow
  obtain ⟨found, -, hfound⟩ :=
    Traversal.exists_of_mem_left (Traversal.mapM_eq_ok_iff.1 h) record hrecord
  obtain ⟨key, hkey, -⟩ := ofRecord_eq_ok_iff.1 hfound
  exact ⟨key, hkey⟩

/-- A token that is verified for a project is signed with an active key of it. -/
theorem signedUnder_of_verdict [Wording] (hdb : db.Conforms) {identity : SessionIdentity}
    (h : verdict c projectId token now db = .ok identity) :
    ∃ row ∈ db.signingKeys, row.projectId = projectId.text ∧ now < row.expiresAt ∧
      SignedUnder row token := by
  have hkeys : KeysReadable db projectId now := by
    obtain ⟨_, -, hrest⟩ := Traversal.bind_eq_ok_iff.1 h
    obtain ⟨keys, hread, -⟩ := Traversal.bind_eq_ok_iff.1 hrest
    exact keysReadable_of_activeKeys hdb hread
  obtain ⟨⟨t, claims, htoken, haccepts⟩, -⟩ :=
    (verdict_eq_ok_iff hdb hkeys (leeway_of_verdict h)).1 h
  obtain ⟨keyId, key, hnames, ⟨row, hrow, hid, hproject, hexpires, hkey⟩, hsigned⟩ :=
    haccepts.signed
  exact ⟨row, hrow, hproject, hexpires, t, keyId, key, htoken, hnames, hid, hkey, hsigned⟩

end SessionToken

theorem ConsoleConfiguration.toJson_injective :
    Function.Injective ConsoleConfiguration.toJson := by
  intro c c' h
  have hread : ∀ c : ConsoleConfiguration, ofJson? c.toJson = some c := by
    intro c
    rw [ofJson?, toJson, Json.fields?_obj]
    rfl
  exact Option.some.inj ((hread c).symm.trans (h ▸ hread c'))

namespace Server

open Gate Api

section Trust

variable [Wording]

/-- A server takes the sessions of one project: whoever is identified by a cookie has a token that
is signed with an active key of the project, and callers are told that the project is the
console's. -/
structure TakesSessionsOf (s : Server) (id : Uuid) (w : World σ) : Prop where
  signed : ∀ procedure (headers : Http.Headers) now context identity, TakesCookie headers →
    (((s.gate now).authenticate procedure headers).run w).1 = .ok context →
    context.identity = some identity → ∃ token,
      Cookie.last? (headers.values "cookie") (cookieName s.consoleProjectId) = some token ∧
      ∃ row ∈ w.tables.signingKeys, row.projectId = id.text ∧ now < row.expiresAt ∧
        SessionToken.SignedUnder row token
  reported : ∀ headers now,
    ((s.answer (Procedure.consoleGetConfiguration.calling headers) now).run w).1 =
      .ok (.withBody 200 (.json (ConsoleConfiguration.mk (IdFormat.project.format id)).toJson))

/-- A server takes the sessions of the console. -/
def TakesSessionsOfConsole (s : Server) (w : World σ) : Prop :=
  ∃ id, (∃ p ∈ w.tables.projects, p.id = id.text ∧ p.isConsole = true) ∧ s.TakesSessionsOf id w

/-- A token in a cookie that identifies its bearer is verified. -/
theorem exists_verdict_of_cookieVerdict {config : TokenConfig} {id : Uuid} {now : Int}
    {cookies : List Bytes} {identity : Identity}
    (h : cookieVerdict config id now cookies db = .ok identity) : ∃ token session,
      Cookie.last? cookies (cookieName id) = some token ∧
      SessionToken.verdict config id token now db = .ok session := by
  rw [cookieVerdict] at h
  cases hlast : Cookie.last? cookies (cookieName id) with
  | none =>
    rw [hlast] at h
    cases h
  | some token =>
    rw [hlast] at h
    dsimp only at h
    split at h
    · cases h
    · obtain ⟨session, hsession, -⟩ := Traversal.bind_eq_ok_iff.1 h
      exact ⟨token, session, rfl, Traversal.mapError_eq_ok_iff.1 hsession⟩

/-- Whatever the project is that a server has been started for, it takes the sessions of that. -/
theorem takesSessionsOf_consoleProjectId (s : Server) {w : World σ} (hdb : w.tables.Conforms) :
    s.TakesSessionsOf s.consoleProjectId w where
  signed := by
    intro procedure headers now context identity hcookie houtcome hidentity
    have hread := (reads_decision s.tokens s.consoleProjectId now procedure headers w).1
    have hdecision : decision s.tokens s.consoleProjectId now procedure headers w.tables =
        .ok context := hread.symm.trans houtcome
    rw [decision] at hdecision
    split at hdecision
    · -- Where nobody has to be identified, nobody is.
      obtain rfl := Except.ok.inj hdecision
      cases hidentity
    · rw [identityOf_of_takesCookie hcookie] at hdecision
      cases hread : cookieVerdict s.tokens s.consoleProjectId now (headers.values "cookie")
          w.tables with
      | error e =>
        rw [hread] at hdecision
        cases hdecision
      | ok found =>
        obtain ⟨token, session, hlast, hverdict⟩ := exists_verdict_of_cookieVerdict hread
        exact ⟨token, hlast, SessionToken.signedUnder_of_verdict hdb hverdict⟩
  reported := by
    intro headers now
    have hroute := Procedure.route_calling .consoleGetConfiguration headers
    have hskip : Gate.skipProcedures.contains
        (pathOf (Procedure.consoleGetConfiguration.calling headers).target) = true := by
      rw [List.contains_iff_mem, Route.eq_path_of_call hroute,
        Procedure.path_mem_skipProcedures_iff]
    refine ((reads_answer s _ now w).1).trans (congrArg Except.ok ?_)
    rw [s.reply_of_call hroute, replyToCall, decision, if_pos hskip]
    rfl

/-- A server takes the sessions of the console exactly if it has been started for it. -/
theorem takesSessionsOfConsole_iff (s : Server) {w : World σ} (hdb : w.tables.Conforms)
    {p : ProjectRow} (hp : p ∈ w.tables.projects) (hid : p.id = s.consoleProjectId.text) :
    s.TakesSessionsOfConsole w ↔ p.isConsole = true := by
  have htakes := s.takesSessionsOf_consoleProjectId hdb
  constructor
  · rintro ⟨id, ⟨q, hq, hqid, hconsole⟩, hother⟩
    -- Callers are told of one project only.
    have hreply := (hother.reported [] 0).symm.trans (htakes.reported [] 0)
    have hjson := Body.json.inj (congrArg Response.body (Except.ok.inj hreply))
    have hproject := congrArg ConsoleConfiguration.consoleProjectId
      (ConsoleConfiguration.toJson_injective hjson)
    obtain rfl := IdFormat.format_injective _ hproject
    obtain rfl := Database.eq_of_nodup_map hdb.projectIds hq hp (hqid.trans hid.symm)
    exact hconsole
  · intro hconsole
    exact ⟨_, ⟨p, hp, hid, hconsole⟩, htakes⟩

/-- **A server trusts the project that it is started for.** It starts exactly if everything that it
looks at is in order, for which the project only has to be in the store, and starting changes no
table. Whatever the store goes through afterwards, every session that the server takes from a cookie
is signed with an active key of that project, and callers are told of that project. So it takes the
sessions of the console if it has been started for the console, and otherwise never does. -/
theorem trusts_project_of_start (host : Host σ) (o : ServerOptions) {w : World σ}
    (hw : Store.Reachable w.tables) :
    ((start host o).run w).2.tables = w.tables ∧
    ∀ s, (((start host o).run w).1 = .ok s ↔ Ready host o w.tables s) ∧
      (((start host o).run w).1 = .ok s → ∃ p ∈ w.tables.projects,
        p.id = s.consoleProjectId.text ∧
        ∀ later : World σ, Store.Leads w.tables later.tables →
          s.TakesSessionsOf s.consoleProjectId later ∧
          (s.TakesSessionsOfConsole later ↔ p.isConsole = true)) := by
  have hdb := hw.conforms
  obtain ⟨houtcome, htables⟩ := readsOn_start host o w hdb.complete
  refine ⟨htables, fun s => ?_⟩
  rw [houtcome, started_eq_ok_iff hdb]
  refine ⟨Iff.rfl, fun hready => ?_⟩
  obtain ⟨p, hp, hid⟩ := hready.stored
  refine ⟨p, hp, hid, fun later hleads => ?_⟩
  have hlater := (hleads.reachable hw).conforms
  -- The row may have been updated since, but its id and its flag have not.
  obtain ⟨q, hq, hqid, hconsole⟩ := hleads.exists_project hw hp
  refine ⟨s.takesSessionsOf_consoleProjectId hlater, ?_⟩
  rw [← hconsole]
  exact s.takesSessionsOfConsole_iff hlater hq (hqid.trans hid)

end Trust

/-! ## A server for a tenant -/

/-- A console with the identifiers 10 to 14. -/
def landlordConsole : NewConsoleProject where
  projectId := .ofNat 10
  organizationId := .ofNat 11
  displayName := "Console"
  consoleDomain := "example.com"
  vaultDomain := "example.com"
  owner := ⟨.ofNat 12, "root@example.com", none, true⟩
  signingKey := ⟨.ofNat 14, .ofNat 10, [], [], 10, 0⟩
  createdAt := 0

/-- A tenant of it, with the key and the organization of the sample token. -/
def tenant : NewProject where
  projectId := .ofNat 1
  consoleProjectId := .ofNat 10
  organizationId := .ofNat 2
  displayName := "Shop"
  vaultDomain := "shop.example.org"
  signingKey := Service.bootstrapKey 1000 Service.sampleDraw 0 (PrivateKey.ofSeed [1]).toPkcs8
  createdAt := 0

/-- The world with the console and its tenant. -/
def tenantWorld : World Unit where
  tables := (Store.Command.createProject tenant).after landlordConsole.tables
  protector := ()

theorem reachable_tenantWorld : Store.Reachable tenantWorld.tables :=
  .step _ (Store.reachable_tables landlordConsole rfl)

theorem fits_tenant : (Store.Command.createProject tenant).Fits landlordConsole.tables := by
  have hother : ∀ m n, Uuid.ofNat m ≠ Uuid.ofNat n → (Uuid.ofNat m).text ≠ (Uuid.ofNat n).text :=
    fun _ _ hne htext => hne (Uuid.text_injective htext)
  exact
    { console := ⟨landlordConsole.linkedRow, rfl, rfl⟩
      organization := List.forall_mem_singleton.2 (hother 11 2 (by decide))
      manager := List.forall_mem_singleton.2 fun h => hother 11 2 (by decide) (Option.some.inj h)
      project := List.forall_mem_singleton.2 (hother 10 1 (by decide))
      key := List.forall_mem_singleton.2 (hother 14 5 (by decide))
      keyParent := .inl rfl }

theorem tables_tenantWorld : tenantWorld.tables = tenant.tables landlordConsole.tables :=
  Store.Command.after_of_fits (Store.reachable_tables landlordConsole rfl).conforms fits_tenant

theorem mem_tenantWorld : tenant.projectRow ∈ tenantWorld.tables.projects := by
  rw [tables_tenantWorld]
  exact List.mem_append_right _ (List.mem_singleton.2 rfl)

/-- A place to start a server at, without a network. -/
def sampleHost : Host Unit where
  network := .none Unit
  hashPassword := id
  entropy := ⟨fun _ => []⟩
  now := 0

/-- Options that name the tenant as the console's project. -/
def tenantOptions : ServerOptions where
  directory := "data"
  bind := "0.0.0.0:8300"
  consoleProjectId := IdFormat.project.format (.ofNat 1)
  rootDomain := "portier.app"
  accessTokenTtl := 300
  kms := { backend := "aws_kms_v1", awsKeyId := some "key" }

/-- The server that comes of them. -/
def tenantServer : Server where
  bind := "0.0.0.0:8300"
  consoleProjectId := .ofNat 1
  tokens := {}

theorem ready_tenantServer :
    Ready sampleHost tenantOptions tenantWorld.tables tenantServer where
  named := rfl
  stored := ⟨_, mem_tenantWorld, rfl⟩
  connected := ⟨.aws "key" none, .aws ⟨"key", none⟩, rfl, rfl⟩
  unobstructed := rfl
  listening := by decide +kernel
  bind := rfl
  tokens := rfl

/-- The token is verified for the tenant. -/
theorem verify_tenantWorld :
    ((SessionToken.verify tenantServer.tokens tenantServer.consoleProjectId
      SessionToken.sampleToken.render 299).run tenantWorld).1 =
        .ok ⟨.ofNat 3, .ofNat 4, .ofNat 2, .ofNat 1⟩ := by
  have hrow : SessionToken.sampleRow ∈ tenantWorld.tables.signingKeys := by
    rw [tables_tenantWorld]
    exact List.mem_append_right _ (List.mem_singleton.2 rfl)
  have hpublic := SessionToken.madeFrom_sampleRow.readable
  have hkeys : SessionToken.KeysReadable tenantWorld.tables (.ofNat 1) 299 := by
    intro row hmem
    obtain ⟨hmem, hproject, -⟩ := Database.mem_activeKeyRows.1 hmem
    rw [tables_tenantWorld] at hmem
    rcases List.mem_append.1 hmem with hmem | hmem
    · -- The other key is the console's.
      obtain rfl := List.mem_singleton.1 hmem
      exact absurd (Uuid.text_injective hproject) (by decide)
    · obtain rfl := List.mem_singleton.1 hmem
      exact ⟨_, hpublic⟩
  have hactive : SessionToken.ActiveKey tenantWorld.tables (.ofNat 1) 299 (.ofNat 5)
      (PrivateKey.ofSeed [1]).publicKey := ⟨_, hrow, rfl, rfl, by decide, hpublic⟩
  have hbacks : SessionToken.Backs tenantWorld.tables (.ofNat 2) (.ofNat 1) :=
    ⟨_, mem_tenantWorld, rfl, rfl⟩
  have haccepted : SessionToken.Accepted {} tenantWorld.tables (.ofNat 1) 299
      SessionToken.sampleToken.render (.ofNat 3) (.ofNat 4) (.ofNat 2) := by
    refine (SessionToken.accepted_sign_iff (Int.le_refl 0) (by decide) (by decide) rfl).2
      ⟨⟨rfl, rfl, rfl⟩, ⟨_, hactive, ?_⟩, by decide, by decide⟩
    exact SessionToken.signed_sign_iff.2 SessionToken.agrees_sampleToken
  rw [(SessionToken.reads_verify _ _ _ _ _).1]
  exact (SessionToken.verdict_eq_ok_iff reachable_tenantWorld.conforms hkeys (by decide)).2
    ⟨haccepted, hbacks⟩

/-- A server listens for the tenant, lets the tenant's user in, and never takes the sessions of the
console. -/
theorem trusts_project_of_start_tenant :
    ((start sampleHost tenantOptions).run tenantWorld).1 = .ok tenantServer ∧
      ((SessionToken.verify tenantServer.tokens tenantServer.consoleProjectId
        SessionToken.sampleToken.render 299).run tenantWorld).1 =
          .ok ⟨.ofNat 3, .ofNat 4, .ofNat 2, .ofNat 1⟩ ∧
      ∀ later : World Unit, Store.Leads tenantWorld.tables later.tables →
        ¬ tenantServer.TakesSessionsOfConsole later := by
  obtain ⟨-, hstart⟩ := trusts_project_of_start sampleHost tenantOptions reachable_tenantWorld
  obtain ⟨hiff, htrusts⟩ := hstart tenantServer
  have hstarted := hiff.2 ready_tenantServer
  refine ⟨hstarted, verify_tenantWorld, fun later hleads hconsole => ?_⟩
  obtain ⟨p, hp, hid, hlater⟩ := htrusts hstarted
  have hconsole' := (hlater later hleads).2.1 hconsole
  obtain rfl := Database.eq_of_nodup_map reachable_tenantWorld.conforms.projectIds hp
    mem_tenantWorld hid
  cases hconsole'

/-- Not every server that starts takes the sessions of the console. -/
theorem not_takesSessionsOfConsole_of_start :
    ¬ ∀ (host : Host Unit) (o : ServerOptions) (w : World Unit) (s : Server),
      Store.Reachable w.tables → ((start host o).run w).1 = .ok s →
        ∀ later : World Unit, Store.Leads w.tables later.tables →
          s.TakesSessionsOfConsole later := by
  intro h
  have hdb := reachable_tenantWorld.conforms
  have hstarted : ((start sampleHost tenantOptions).run tenantWorld).1 = .ok tenantServer := by
    rw [(readsOn_start sampleHost tenantOptions tenantWorld hdb.complete).1]
    exact (started_eq_ok_iff hdb).2 ready_tenantServer
  have hconsole := h sampleHost tenantOptions tenantWorld tenantServer reachable_tenantWorld
    hstarted tenantWorld .refl
  cases (tenantServer.takesSessionsOfConsole_iff hdb mem_tenantWorld rfl).1 hconsole

end Server
end Gatehouse
