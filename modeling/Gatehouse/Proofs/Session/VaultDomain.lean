import Gatehouse.Proofs.Session.Provisioning
import Gatehouse.Proofs.Session.Tokens
import Gatehouse.Proofs.Store.Atomicity

/-!
# Where the login pages of a project may be

Projects are made with login pages on a domain that they trust, and the console with login pages
under its own domain. Nothing but an update ever touches a domain again, and no domain is trusted
later that was not trusted from the beginning. An update asks for nothing, however: it puts the
login pages wherever it is told to, and the domains that are trusted stay as they are.
-/

namespace Gatehouse

variable {σ : Type} {db db' : Database}

/-! ## The rules -/

/-- Where the login pages of a project may be: on a trusted domain, and those of the console under
its own domain. -/
def Project.VaultRule (p : Project) : Prop :=
  p.vaultDomain ∈ p.trustedDomains ∧
    (p.isConsole = true → Provisioning.Under p.vaultDomain p.cookieDomain)

/-- The row that makes the domain of a project's login pages a trusted one. -/
def ProjectRow.vaultRow (p : ProjectRow) : TrustedDomainRow := ⟨p.id, p.vaultDomain⟩

namespace Database

/-- The rule for the login pages of a project holds of every row. -/
structure VaultRules (db : Database) : Prop where
  trusted : ∀ p ∈ db.projects, p.vaultRow ∈ db.trustedDomains
  under : ∀ p ∈ db.projects, p.isConsole = true →
    Provisioning.Under p.vaultDomain p.cookieDomain

theorem vaultRules_empty : empty.VaultRules where
  trusted _ hp := absurd hp List.not_mem_nil
  under _ hp := absurd hp List.not_mem_nil

/-- Whatever a console trusts is under its own domain. -/
def TrustsUnder (db : Database) : Prop :=
  ∀ p ∈ db.projects, p.isConsole = true → ∀ d ∈ db.trustedDomains, d.projectId = p.id →
    Provisioning.Under d.domain p.cookieDomain

/-- For a console it is enough to be on a trusted domain. -/
theorem TrustsUnder.vaultRules_iff (h : db.TrustsUnder) :
    db.VaultRules ↔ ∀ p ∈ db.projects, p.vaultRow ∈ db.trustedDomains := by
  refine ⟨VaultRules.trusted, fun htrusted => ⟨htrusted, fun p hp hconsole => ?_⟩⟩
  exact h p hp hconsole p.vaultRow (htrusted p hp) rfl

theorem mem_domainsOf {id : Uuid} {domain : String} :
    domain ∈ db.domainsOf id ↔ ⟨id.text, domain⟩ ∈ db.trustedDomains := by
  rw [domainsOf, List.mem_mergeSort, List.mem_map]
  constructor
  · rintro ⟨d, hd, rfl⟩
    obtain ⟨hd, hid⟩ := List.mem_filter.1 hd
    exact beq_iff_eq.1 hid ▸ hd
  · exact fun h => ⟨_, List.mem_filter.2 ⟨h, beq_self_eq_true _⟩, rfl⟩

/-- The rule holds of every row exactly if it holds of every project that can be read. -/
theorem vaultRules_iff_getProject (hdb : db.Conforms) :
    db.VaultRules ↔ ∀ id project, db.getProject id = .ok project → project.VaultRule := by
  constructor
  · intro h id project hread
    obtain ⟨row, hrow, hid, _, _, rfl⟩ := hdb.exists_row_of_getProject hread
    exact ⟨mem_domainsOf.2 (hid ▸ h.trusted row hrow), h.under row hrow⟩
  · intro h
    -- Each row is that of a project that can be read.
    have hread : ∀ row ∈ db.projects, row.vaultRow ∈ db.trustedDomains ∧
        (row.isConsole = true → Provisioning.Under row.vaultDomain row.cookieDomain) := by
      intro row hrow
      obtain ⟨id, hid⟩ := hdb.projectTexts row hrow
      have hfound := hdb.project?_of_mem hrow hid.symm
      obtain ⟨organizationId, quota, -, -, hrecord⟩ := hdb.getProject_of_some hfound
      obtain ⟨htrusted, hunder⟩ := h id _ hrecord
      refine ⟨?_, hunder⟩
      rw [ProjectRow.vaultRow, ← hid]
      exact mem_domainsOf.1 htrusted
    exact ⟨fun row hrow => (hread row hrow).1, fun row hrow => (hread row hrow).2⟩

end Database

/-! ## The making of projects -/

theorem NewConsoleProject.trustsUnder_tables {p : NewConsoleProject}
    (h : Provisioning.Under p.vaultDomain p.consoleDomain) : p.tables.TrustsUnder := by
  intro q hq _ d hd _
  obtain rfl := List.mem_singleton.1 hq
  rcases List.mem_cons.1 hd with rfl | hd
  · exact .inl rfl
  · split at hd
    · cases hd
    · obtain rfl := List.mem_singleton.1 hd
      exact h

theorem NewConsoleProject.vaultRow_mem_tables (p : NewConsoleProject) :
    ∀ q ∈ p.tables.projects, q.vaultRow ∈ p.tables.trustedDomains := by
  intro q hq
  obtain rfl := List.mem_singleton.1 hq
  change ⟨p.projectId.text, p.vaultDomain⟩ ∈ p.domainRows
  rw [domainRows]
  by_cases hsame : p.vaultDomain = p.consoleDomain
  · rw [if_pos hsame, hsame]
    exact List.mem_cons_self
  · rw [if_neg hsame]
    exact List.mem_cons_of_mem _ (List.mem_singleton.2 rfl)

namespace NewProject

variable {p : NewProject}

theorem trustsUnder_tables (hfits : p.Fits db) (h : db.TrustsUnder) :
    (p.tables db).TrustsUnder := by
  intro q hq hconsole d hd hid
  rcases List.mem_append.1 hq with hq | hq
  · rcases List.mem_append.1 hd with hd | hd
    · exact h q hq hconsole d hd hid
    · -- The domain that is added is for the new project, and no other has its id.
      rw [Statement.addedDomains] at hd
      split at hd
      · cases hd
      · obtain rfl := List.mem_singleton.1 hd
        exact absurd hid.symm (hfits.project q hq)
  · obtain rfl := List.mem_singleton.1 hq
    cases hconsole

theorem vaultRow_mem_tables (h : ∀ q ∈ db.projects, q.vaultRow ∈ db.trustedDomains) :
    ∀ q ∈ (p.tables db).projects, q.vaultRow ∈ (p.tables db).trustedDomains := by
  intro q hq
  rcases List.mem_append.1 hq with hq | hq
  · exact List.mem_append_left _ (h q hq)
  · obtain rfl := List.mem_singleton.1 hq
    exact Statement.mem_append_addedDomains p.domainRow db

end NewProject

/-! ## Operations of the store -/

namespace Store.Command

/-- Whether an operation makes a project. -/
def makesProject : Command → Bool
  | createConsoleProject _ | createProject _ => true
  | _ => false

/-- A console that the operation makes is on its own domain or under it. -/
def Grounded : Command → Prop
  | createConsoleProject p => Provisioning.Under p.vaultDomain p.consoleDomain
  | _ => True

/-- The operation moves the login pages of a project to a domain that the project does not trust. -/
def Strays : Command → Database → Prop
  | updateProject u, db => (∃ p ∈ db.projects, p.id = u.projectId.text) ∧
    ∃ domain, u.vaultDomain = some domain ∧ ⟨u.projectId.text, domain⟩ ∉ db.trustedDomains
  | _, _ => False

theorem grounded_of_makesProject {c : Command} (h : c.makesProject = false) : c.Grounded := by
  cases c with
  | createConsoleProject p => cases h
  | _ => trivial

theorem Strays.fits {c : Command} (h : c.Strays db) : c.Fits db := by
  cases c with
  | updateProject u => exact h.1
  | _ => cases h

theorem trustsUnder_effect {c : Command} (hc : c.Grounded) (hfits : c.Fits db)
    (h : db.TrustsUnder) : (c.effect db).TrustsUnder := by
  cases c with
  | createConsoleProject p => exact p.trustsUnder_tables hc
  | createProject p => exact p.trustsUnder_tables hfits h
  | updateProject u =>
    intro q hq hconsole d hd hid
    obtain ⟨p, hp, rfl⟩ := List.mem_map.1 hq
    have hharmless := u.harmless_change.ite fun p => p.id == u.projectId.text
    rw [hharmless.isConsole] at hconsole
    rw [hharmless.id] at hid
    rw [hharmless.cookieDomain]
    exact h p hp hconsole d hd hid
  | _ => exact h

/-- Where all login pages are on trusted domains, they are so after an operation exactly if it does
not stray. -/
theorem vaultRow_mem_effect_iff (c : Command)
    (h : ∀ p ∈ db.projects, p.vaultRow ∈ db.trustedDomains) :
    (∀ p ∈ (c.effect db).projects, p.vaultRow ∈ (c.effect db).trustedDomains) ↔ ¬ c.Strays db := by
  cases c with
  | createConsoleProject p => exact iff_of_true p.vaultRow_mem_tables id
  | createProject p => exact iff_of_true (p.vaultRow_mem_tables h) id
  | updateProject u =>
    have hrow : ∀ p, (u.change p).vaultRow = ⟨p.id, u.vaultDomain.getD p.vaultDomain⟩ :=
      fun _ => rfl
    constructor
    · rintro hafter ⟨⟨p, hp, hid⟩, domain, hdomain, huntrusted⟩
      have hchanged := hafter _ (List.mem_map_of_mem hp)
      rw [if_pos (beq_iff_eq.2 hid), hrow, hid, hdomain] at hchanged
      exact huntrusted hchanged
    · intro hstays
      refine List.forall_mem_map.2 fun p hp => ?_
      by_cases hid : p.id = u.projectId.text
      · rw [if_pos (beq_iff_eq.2 hid), hrow]
        cases hdomain : u.vaultDomain with
        | none => exact h p hp
        | some domain =>
          by_contra huntrusted
          exact hstays ⟨⟨p, hp, hid⟩, domain, hdomain, hid ▸ huntrusted⟩
      · rw [if_neg (mt beq_iff_eq.1 hid)]
        exact h p hp
  | _ => exact iff_of_true h id

theorem trustsUnder_after {c : Command} (hc : c.Grounded) (hdb : db.Conforms)
    (h : db.TrustsUnder) : (c.after db).TrustsUnder := by
  rcases c.after_cases hdb with hsame | ⟨hfits, heffect⟩
  · rwa [hsame]
  · rw [heffect]
    exact trustsUnder_effect hc hfits h

/-- An operation breaks the rules exactly if it strays. -/
theorem vaultRules_after_iff {c : Command} (hc : c.Grounded) (hdb : db.Conforms)
    (htrusts : db.TrustsUnder) (h : db.VaultRules) : (c.after db).VaultRules ↔ ¬ c.Strays db := by
  by_cases hfits : c.Fits db
  · rw [(trustsUnder_after hc hdb htrusts).vaultRules_iff, after_of_fits hdb hfits]
    exact c.vaultRow_mem_effect_iff h.trusted
  · rw [after_of_not_fits hdb hfits]
    exact iff_of_true h fun hstrays => hfits hstrays.fits

end Store.Command

/-! ## Steps -/

namespace Provisioning

/-- A project is made from a request, or the store carries out another operation. -/
inductive Step (σ : Type) where
  | createConsole (keys : SigningKeys σ) (hash : String → String) (r : ConsoleRequest)
      (draw : ConsoleDraw) (now : Int)
  | createProject (keys : SigningKeys σ) (r : ProjectRequest) (draw : ProjectDraw) (now : Int)
  | command (c : Store.Command) (h : c.makesProject = false)
  | request (r : Store.Request)

/-- A call that makes a key and goes on with it changes the tables as what follows does. -/
theorem tables_generate_bind {α : Type} {keys : SigningKeys σ} {draw : KeyDraw} {projectId : Uuid}
    {now : Int} {f : SigningKey → Call σ SessionError α} {w : World σ}
    {change : SigningKey → Database → Database}
    (h : ∀ key w, ((f key).run w).2.tables = change key w.tables) :
    ((keys.generate draw projectId now >>= f).run w).2.tables = w.tables ∨
      ∃ key, ((keys.generate draw projectId now >>= f).run w).2.tables = change key w.tables := by
  have hkeeps := Service.keeps_generate keys draw projectId now w
  rcases hrun : (keys.generate draw projectId now).run w with ⟨e | key, mid⟩
  · rw [hrun] at hkeeps
    rw [Call.run_bind_of_error hrun]
    exact .inl hkeeps
  · rw [hrun] at hkeeps
    have hsame : mid.tables = w.tables := hkeeps
    rw [Call.run_bind_of_ok hrun, h, hsame]
    exact .inr ⟨key, rfl⟩

/-- A console is written only if it may be asked for. -/
theorem tables_createConsole (keys : SigningKeys σ) (hash : String → String) (r : ConsoleRequest)
    (draw : ConsoleDraw) (now : Int) (w : World σ) :
    ((createConsole keys hash r draw now).run w).2.tables = w.tables ∨
      Under r.vaultDomain r.consoleDomain ∧ ∃ key,
        ((createConsole keys hash r draw now).run w).2.tables =
          (Store.Command.createConsoleProject (consoleProject r draw
            (hash (bootstrapPassword draw.password)) key now)).after w.tables := by
  rcases r.demands_check with ⟨hacceptable, hcheck⟩ | ⟨-, detail, hcheck⟩
  · rw [createConsole, hcheck]
    refine (tables_generate_bind fun key w => ?_).imp_right fun hwritten =>
      ⟨hacceptable.under, hwritten⟩
    refine Service.tables_mapError_bind (fun w => ?_) (fun _ => ?_) w
    · exact Store.Command.tables_run_call (.createConsoleProject _) w
    · exact (Call.keeps_emit _).bind fun _ => (Call.reads_pure _).keeps
  · rw [createConsole, hcheck]
    exact .inl rfl

theorem tables_createProject (keys : SigningKeys σ) (r : ProjectRequest) (draw : ProjectDraw)
    (now : Int) (w : World σ) :
    ((createProject keys r draw now).run w).2.tables = w.tables ∨ ∃ key,
      ((createProject keys r draw now).run w).2.tables =
        (Store.Command.createProject (tenantProject r draw key now)).after w.tables := by
  rcases r.demands_check with ⟨-, hcheck⟩ | ⟨-, detail, hcheck⟩
  · rw [createProject, hcheck]
    refine tables_generate_bind fun key w => ?_
    refine Service.tables_mapError_bind (fun w => ?_) (fun _ => ?_) w
    · exact Store.Command.tables_run_call (.createProject _) w
    · exact (Call.keeps_emit _).bind fun _ => (Call.reads_pure _).keeps
  · rw [createProject, hcheck]
    exact .inl rfl

namespace Step

/-- The world after a step. -/
def after : Step σ → World σ → World σ
  | createConsole keys hash r draw now, w =>
    ((Provisioning.createConsole keys hash r draw now).run w).2
  | createProject keys r draw now, w => ((Provisioning.createProject keys r draw now).run w).2
  | command c _, w => (c.call.run w).2
  | request r, w => (r.call.run w).2

/-- The step moves the login pages of a project to a domain that the project does not trust. -/
def Strays : Step σ → Database → Prop
  | command c _, db => c.Strays db
  | _, _ => False

/-- A step does to the tables what an operation of the store does, if it does anything. -/
theorem tables_after (s : Step σ) (w : World σ) :
    (s.after w).tables = w.tables ∧ ¬ s.Strays w.tables ∨
      ∃ c : Store.Command, c.Grounded ∧ (s.after w).tables = c.after w.tables ∧
        (s.Strays w.tables ↔ c.Strays w.tables) := by
  cases s with
  | createConsole keys hash r draw now =>
    rcases tables_createConsole keys hash r draw now w with hsame | ⟨hunder, key, hwritten⟩
    · exact .inl ⟨hsame, id⟩
    · refine .inr ⟨_, ?_, hwritten, Iff.rfl⟩
      exact hunder
  | createProject keys r draw now =>
    rcases tables_createProject keys r draw now w with hsame | ⟨key, hwritten⟩
    · exact .inl ⟨hsame, id⟩
    · exact .inr ⟨.createProject _, trivial, hwritten, Iff.rfl⟩
  | command c hc =>
    exact .inr ⟨c, Store.Command.grounded_of_makesProject hc, c.tables_run_call w, Iff.rfl⟩
  | request r => exact .inl ⟨r.keeps_call w, id⟩

/-- What every step keeps: the tables are reachable, and whatever a console trusts is under its own
domain. -/
structure Upheld (db : Database) : Prop where
  reachable : Store.Reachable db
  trustsUnder : db.TrustsUnder

theorem upheld_empty : Upheld .empty where
  reachable := .fresh
  trustsUnder _ hp := absurd hp List.not_mem_nil

theorem upheld_after (s : Step σ) {w : World σ} (h : Upheld w.tables) :
    Upheld (s.after w).tables := by
  rcases s.tables_after w with ⟨hsame, -⟩ | ⟨c, hc, hafter, -⟩
  · rwa [hsame]
  · rw [hafter]
    exact ⟨.step c h.reachable, c.trustsUnder_after hc h.reachable.conforms h.trustsUnder⟩

theorem vaultRules_after_iff (s : Step σ) {w : World σ} (h : Upheld w.tables)
    (hrules : w.tables.VaultRules) : (s.after w).tables.VaultRules ↔ ¬ s.Strays w.tables := by
  rcases s.tables_after w with ⟨hsame, hstays⟩ | ⟨c, hc, hafter, hstrays⟩
  · rw [hsame]
    exact iff_of_true hrules hstays
  · rw [hafter, hstrays]
    exact Store.Command.vaultRules_after_iff hc h.reachable.conforms h.trustsUnder hrules

end Step

/-! ## Runs -/

/-- The world after some steps. -/
def runSteps (steps : List (Step σ)) (w : World σ) : World σ :=
  steps.foldl (fun w s => s.after w) w

theorem upheld_runSteps (steps : List (Step σ)) {w : World σ} (h : Step.Upheld w.tables) :
    Step.Upheld (runSteps steps w).tables := by
  induction steps generalizing w with
  | nil => exact h
  | cons s steps ih => exact ih (s.upheld_after h)

/-- Where the rules hold at first, they hold throughout a run exactly if no step of it strays. -/
theorem vaultRules_runSteps_iff (steps : List (Step σ)) {w : World σ} (h : Step.Upheld w.tables)
    (hrules : w.tables.VaultRules) :
    (∀ before rest, steps = before ++ rest → (runSteps before w).tables.VaultRules) ↔
      ∀ before s rest, steps = before ++ s :: rest → ¬ s.Strays (runSteps before w).tables := by
  -- A place in the run is its beginning, or a place in what follows the first step; there the
  -- rules still hold at first, which is what carries the induction in both directions.
  induction steps generalizing w with
  | nil =>
    constructor
    · rintro - before s rest hsteps
      cases before <;> cases hsteps
    · rintro - before rest hsteps
      obtain ⟨rfl, -⟩ := List.append_eq_nil_iff.1 hsteps.symm
      exact hrules
  | cons s steps ih =>
    have hstep := s.vaultRules_after_iff h hrules
    constructor
    · intro hall before t rest hsteps
      have hafter : (s.after w).tables.VaultRules := hall [s] steps rfl
      cases before with
      | nil =>
        obtain ⟨rfl, -⟩ := List.cons.inj hsteps
        exact hstep.1 hafter
      | cons first before =>
        obtain ⟨rfl, hrest⟩ := List.cons.inj hsteps
        refine (ih (s.upheld_after h) hafter).1 (fun before rest heq => ?_) before t rest hrest
        exact hall (s :: before) rest (congrArg (s :: ·) heq)
    · intro hstays before rest hsteps
      cases before with
      | nil => exact hrules
      | cons first before =>
        obtain ⟨rfl, hrest⟩ := List.cons.inj hsteps
        have hafter := hstep.2 (hstays [] s steps rfl)
        refine (ih (s.upheld_after h) hafter).2 (fun before t rest heq => ?_) before rest hrest
        exact hstays (s :: before) t rest (congrArg (s :: ·) heq)

/-- A new store, with a key protector in some state. -/
def newStore (protector : σ) : World σ := { tables := .empty, protector }

theorem upheld_newStore (protector : σ) (steps : List (Step σ)) :
    Step.Upheld (runSteps steps (newStore protector)).tables :=
  upheld_runSteps steps Step.upheld_empty

/-- **Login pages stay on trusted domains exactly as long as updates keep them there.** In a run of
the service from a new store, the login pages of every project are on a trusted domain, and those of
the console under its own domain, from the beginning to the end, exactly if no update on the way
moves a project to a domain that it does not trust. The first that does breaks the rule, whether the
project is a tenant or the console, and nothing but such an update ever does. What the console
trusts is under its own domain in any case. -/
theorem vaultRule_throughout_iff (protector : σ) (steps : List (Step σ)) :
    ((∀ before rest, steps = before ++ rest → ∀ id project,
        (runSteps before (newStore protector)).tables.getProject id = .ok project →
          project.VaultRule) ↔
      ∀ before s rest, steps = before ++ s :: rest →
        ¬ s.Strays (runSteps before (newStore protector)).tables) ∧
    ∀ id project, (runSteps steps (newStore protector)).tables.getProject id = .ok project →
      project.isConsole = true → ∀ domain ∈ project.trustedDomains,
        Under domain project.cookieDomain := by
  constructor
  · rw [← vaultRules_runSteps_iff steps Step.upheld_empty Database.vaultRules_empty]
    refine forall_congr' fun before => forall_congr' fun rest => forall_congr' fun _ => ?_
    have hupheld := upheld_newStore protector before
    exact (Database.vaultRules_iff_getProject hupheld.reachable.conforms).symm
  · intro id project hread hconsole domain hdomain
    have hupheld := upheld_newStore protector steps
    obtain ⟨row, hrow, hid, _, _, rfl⟩ :=
      hupheld.reachable.conforms.exists_row_of_getProject hread
    exact hupheld.trustsUnder row hrow hconsole _ (Database.mem_domainsOf.1 hdomain) hid.symm

/-- A console is made. -/
def foundingStep : Step Unit :=
  .createConsole ⟨.clear, 1000⟩ id SessionToken.sampleRequest Service.sampleDraw 0

/-- The console's login pages are put elsewhere. -/
def strayingStep : Step Unit :=
  .command (.updateProject { projectId := .ofNat 1, vaultDomain := some "login.example.org" }) rfl

theorem strays_strayingStep :
    strayingStep.Strays (runSteps [foundingStep] (newStore ())).tables := by
  have htables : (runSteps [foundingStep] (newStore ())).tables =
      (consoleProject SessionToken.sampleRequest Service.sampleDraw (bootstrapPassword [])
        (Service.bootstrapKey 1000 Service.sampleDraw 0 (PrivateKey.ofSeed [1]).toPkcs8)
        0).tables := SessionToken.tables_sampleWorld
  rw [htables]
  refine ⟨⟨_, List.mem_singleton.2 rfl, rfl⟩, _, rfl, fun htrusted => ?_⟩
  -- The console is on its own domain, which is the only one that it trusts.
  obtain hrow := List.mem_singleton.1 htrusted
  exact absurd (congrArg TrustedDomainRow.domain hrow) (by decide)

/-- The rule does not hold of all projects in all runs. -/
theorem vaultRule_breaks : ¬ ∀ (steps : List (Step Unit)) (id : Uuid) (project : Project),
    (runSteps steps (newStore ())).tables.getProject id = .ok project → project.VaultRule := by
  intro h
  have hrules : ∀ steps : List (Step Unit), (runSteps steps (newStore ())).tables.VaultRules :=
    fun steps => (Database.vaultRules_iff_getProject
      (upheld_newStore () steps).reachable.conforms).2 (h steps)
  have hstays := (strayingStep.vaultRules_after_iff (upheld_newStore () [foundingStep])
    (hrules [foundingStep])).1 (hrules [foundingStep, strayingStep])
  exact hstays strays_strayingStep

end Provisioning
end Gatehouse
