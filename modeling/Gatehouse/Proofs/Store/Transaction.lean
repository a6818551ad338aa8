import Gatehouse.Proofs.Store.Schema
import Gatehouse.Store.Operation

/-!
# What transactions do

The transactions of more than one statement, each as one change: exactly when it takes place, and
the tables it leaves.
-/

namespace Gatehouse

variable {db db' : Database}

/-- The row of a project, if there is one, is the row with its id. -/
theorem Database.mem_of_project?_eq_some {id : Uuid} {row : ProjectRow}
    (h : db.project? id = some row) : row ∈ db.projects ∧ row.id = id.text := by
  have hid := List.find?_some h
  exact ⟨List.mem_of_find?_eq_some h, by simpa using hid⟩

theorem Database.project?_eq_none_iff {id : Uuid} :
    db.project? id = none ↔ ∀ row ∈ db.projects, row.id ≠ id.text := by
  rw [project?, List.find?_eq_none]
  simp only [beq_iff_eq, ne_eq]

/-! ## The console -/

namespace NewConsoleProject

/-- The project as the bootstrap leaves it. -/
def linkedRow (p : NewConsoleProject) : ProjectRow :=
  { p.projectRow with organizationId := some p.organizationId.text }

/-- The trusted domains that the bootstrap leaves; both domains may be one. -/
def domainRows (p : NewConsoleProject) : List TrustedDomainRow :=
  ⟨p.projectId.text, p.consoleDomain⟩ ::
    if p.vaultDomain = p.consoleDomain then [] else [⟨p.projectId.text, p.vaultDomain⟩]

/-- The tables that the bootstrap leaves in a new store. -/
def tables (p : NewConsoleProject) : Database :=
  { projects := [p.linkedRow], trustedDomains := p.domainRows,
    organizations := [p.organizationRow], users := [p.ownerRow],
    signingKeys := [p.signingKey.row] }

theorem noProjects_eq_ok_iff :
    noProjects db = .ok db' ↔ .projects ∉ db.missing ∧ db.allowReading = .ok () ∧
      db.projects = [] ∧ db' = db := by
  rw [noProjects, Database.require_bind_eq_ok_iff, Statement.ite_ok_eq_ok_iff]
  simp

/-- The bootstrap takes place if there is no project yet. -/
theorem projects_eq_nil_of_statements (p : NewConsoleProject)
    (h : Statement.all p.statements db = .ok db') : db.projects = [] := by
  obtain ⟨_, hnone, -⟩ := Statement.all_cons_eq_ok_iff.1 h
  exact (noProjects_eq_ok_iff.1 hnone).2.2.1

/-- Each statement of the bootstrap keeps to the schema. -/
theorem statements_conform (p : NewConsoleProject) : ∀ s ∈ p.statements, ∀ db db' : Database,
    db.Conforms → s db = .ok db' → db'.Conforms := by
  rw [statements]
  simp only [List.forall_mem_cons, List.not_mem_nil, false_implies, implies_true, and_true]
  refine ⟨?_, ?_, ?_, ?_, ?_, ?_, ?_, ?_⟩ <;> intro db db' hdb h
  · obtain ⟨-, -, -, rfl⟩ := noProjects_eq_ok_iff.1 h
    exact hdb
  · refine Statement.insertProject_conforms ?_ ?_ ?_ hdb h
    · exact p.projectId.writes_text
    · rintro o ⟨⟩
    · rintro n ⟨⟩
  · exact Statement.insertTrustedDomain_conforms hdb h
  · exact Statement.insertTrustedDomain_conforms hdb h
  · refine Statement.insertOrganization_conforms ?_ hdb h
    exact p.organizationId.writes_text
  · refine Statement.linkOrganization_conforms ?_ hdb h
    exact p.organizationId.writes_text
  · refine Statement.insertUser_conforms ?_ hdb h
    exact p.owner.id.writes_text
  · refine Statement.insertSigningKey_conforms ?_ hdb h
    exact p.signingKey.id.writes_text

/-- In a new store the bootstrap succeeds if its key is for its project. -/
theorem statements_empty (p : NewConsoleProject) :
    Statement.all p.statements .empty =
      if p.signingKey.projectId = p.projectId then .ok p.tables
      else .error StoreError.dangling := by
  have hflip : p.projectId = p.signingKey.projectId ↔ p.signingKey.projectId = p.projectId :=
    eq_comm
  by_cases hdomain : p.vaultDomain = p.consoleDomain <;>
  by_cases hkey : p.signingKey.projectId = p.projectId <;>
  simp [statements, Statement.all, noProjects, Statement.insertProject,
    Statement.insertTrustedDomain, Statement.insertOrganization, Statement.linkOrganization,
    Statement.insertUser, Statement.insertSigningKey, Database.empty, Database.require,
    Database.allowReading, Database.writable, Database.allow, Database.hasProject,
    Database.hasOrganization, tables, linkedRow, domainRows, projectRow, organizationRow, ownerRow,
    SigningKey.row, bind, Except.bind, hdomain, hkey, hflip]

end NewConsoleProject

/-! ## Tenants -/

namespace NewProject

/-- The row of the trusted domain. -/
def domainRow (p : NewProject) : TrustedDomainRow := ⟨p.projectId.text, p.vaultDomain⟩

/-- The tables with a new project. -/
def tables (p : NewProject) (db : Database) : Database :=
  { db with
    projects := db.projects ++ [p.projectRow]
    trustedDomains := db.trustedDomains ++ Statement.addedDomains p.domainRow db
    organizations := db.organizations ++ [p.organizationRow]
    signingKeys := db.signingKeys ++ [p.signingKey.row] }

theorem fromConsole_eq_ok_iff {p : NewProject} :
    p.fromConsole db = .ok db' ↔ .projects ∉ db.missing ∧ db.allowReading = .ok () ∧
      (∃ row, db.project? p.consoleProjectId = some row ∧ row.isConsole = true) ∧ db' = db := by
  rw [fromConsole, Database.require_bind_eq_ok_iff]
  cases hrow : db.project? p.consoleProjectId with
  | none => simp
  | some row => simp [Statement.ite_ok_eq_ok_iff]

/-- Each statement of the making of a project keeps to the schema. -/
theorem statements_conform (p : NewProject) : ∀ s ∈ p.statements, ∀ db db' : Database,
    db.Conforms → s db = .ok db' → db'.Conforms := by
  rw [statements]
  simp only [List.forall_mem_cons, List.not_mem_nil, false_implies, implies_true, and_true]
  refine ⟨?_, ?_, ?_, ?_, ?_⟩ <;> intro db db' hdb h
  · obtain ⟨-, -, -, rfl⟩ := fromConsole_eq_ok_iff.1 h
    exact hdb
  · refine Statement.insertOrganization_conforms ?_ hdb h
    exact p.organizationId.writes_text
  · refine Statement.insertProject_conforms ?_ ?_ ?_ hdb h
    · exact p.projectId.writes_text
    · intro o ho
      rw [← Option.some.inj ho]
      exact p.organizationId.writes_text
    · rintro n ⟨⟩
  · exact Statement.insertTrustedDomain_conforms hdb h
  · refine Statement.insertSigningKey_conforms ?_ hdb h
    exact p.signingKey.id.writes_text

/-- The conditions under which a project is made from tables that all exist and nobody else holds:
it is made from the console, its ids are new, and its key is for a project that exists then. -/
structure Fits (p : NewProject) (db : Database) : Prop where
  console : ∃ row, db.project? p.consoleProjectId = some row ∧ row.isConsole = true
  organization : ∀ o ∈ db.organizations, o.id ≠ p.organizationId.text
  manager : ∀ q ∈ db.projects, q.organizationId ≠ some p.organizationId.text
  project : ∀ q ∈ db.projects, q.id ≠ p.projectId.text
  key : ∀ k ∈ db.signingKeys, k.id ≠ p.signingKey.id.text
  keyParent : p.signingKey.projectId = p.projectId ∨
    ∃ q ∈ db.projects, q.id = p.signingKey.projectId.text

/-- The making of a project takes place exactly if it fits the tables. -/
theorem statements_eq_ok_iff {p : NewProject} (hdb : db.missing = []) (hopen : db.refusal = none) :
    Statement.all p.statements db = .ok db' ↔ p.Fits db ∧ db' = p.tables db := by
  rw [statements]
  simp only [Statement.all_cons_eq_ok_iff, fromConsole_eq_ok_iff,
    Statement.insertOrganization_eq_ok_iff, Statement.insertProject_eq_ok_iff,
    Statement.insertTrustedDomain_eq_ok_iff, Statement.insertSigningKey_eq_ok_iff,
    Statement.all_nil, Except.ok.injEq, hdb, Database.allowReading_of_refusal hopen,
    List.not_mem_nil, not_false_eq_true, true_and, and_assoc]
  constructor
  · rintro ⟨_, hconsole, rfl, _, -, -, -, horganization, -, rfl, _, -, -, -, hmanager, hproject, rfl,
      _, -, -, -, -, rfl, _, -, -, -, hkey, ⟨q, hq, hqid⟩, rfl, rfl⟩
    refine ⟨⟨hconsole, horganization, hmanager rfl, hproject, hkey, ?_⟩, rfl⟩
    rcases List.mem_append.1 hq with hq | hq
    · exact .inr ⟨q, hq, hqid⟩
    · obtain rfl := List.mem_singleton.1 hq
      exact .inl (Uuid.text_injective hqid.symm)
  · rintro ⟨h, rfl⟩
    obtain ⟨row, hrow, hconsole⟩ := h.console
    -- The domain and the key may refer to the project that has just been added.
    have hself : ∃ q ∈ db.projects ++ [p.projectRow], q.id = p.projectId.text :=
      ⟨p.projectRow, List.mem_append_right _ (List.mem_singleton.2 rfl), rfl⟩
    have hkeyParent : ∃ q ∈ db.projects ++ [p.projectRow], q.id = p.signingKey.projectId.text := by
      rcases h.keyParent with heq | ⟨q, hq, hqid⟩
      · rw [heq]
        exact hself
      · exact ⟨q, List.mem_append_left _ hq, hqid⟩
    refine ⟨db, ⟨row, hrow, hconsole⟩, rfl, _, ?_, ?_, hopen, h.organization,
      ⟨row, Database.mem_of_project?_eq_some hrow⟩, rfl, _, ?_, hopen, ?_, fun _ => h.manager,
      h.project, rfl, _, ?_, ?_, hopen, .inr hself, rfl, _, ?_, ?_, hopen, h.key, hkeyParent, rfl,
      rfl⟩
    all_goals simp [hdb, projectRow]

end NewProject

/-! ## Updates -/

namespace ProjectUpdate

/-- A project with the new values. -/
def change (u : ProjectUpdate) (row : ProjectRow) : ProjectRow :=
  { row with
    vaultDomain := u.vaultDomain.getD row.vaultDomain
    logoUrl := u.logoUrl <|> row.logoUrl
    darkModeLogoUrl := u.darkModeLogoUrl <|> row.darkModeLogoUrl }

theorem harmless_change (u : ProjectUpdate) : Statement.Harmless u.change :=
  ⟨fun _ => rfl, fun _ => rfl, fun _ => rfl, fun _ => rfl, fun _ => rfl⟩

/-- The changes that the statements of an update make, in their order. -/
def changes (u : ProjectUpdate) : List (ProjectRow → ProjectRow) :=
  (u.vaultDomain.toList.map fun v p => { p with vaultDomain := v }) ++
    (u.logoUrl.toList.map fun v p => { p with logoUrl := some v }) ++
    (u.darkModeLogoUrl.toList.map fun v p => { p with darkModeLogoUrl := some v })

theorem harmless_changes (u : ProjectUpdate) : ∀ c ∈ u.changes, Statement.Harmless c := by
  intro c hc
  simp only [changes, List.mem_append, List.mem_map] at hc
  obtain (⟨v, -, rfl⟩ | ⟨v, -, rfl⟩) | ⟨v, -, rfl⟩ := hc <;>
    exact ⟨fun _ => rfl, fun _ => rfl, fun _ => rfl, fun _ => rfl, fun _ => rfl⟩

theorem id_changes (u : ProjectUpdate) : ∀ c ∈ u.changes, ∀ p, (c p).id = p.id :=
  fun c hc => (u.harmless_changes c hc).id

theorem foldl_changes (u : ProjectUpdate) (p : ProjectRow) :
    u.changes.foldl (fun p c => c p) p = u.change p := by
  obtain ⟨id, vaultDomain, logoUrl, darkModeLogoUrl⟩ := u
  cases vaultDomain <;> cases logoUrl <;> cases darkModeLogoUrl <;> rfl

theorem statements_eq (u : ProjectUpdate) :
    u.statements = u.exists? :: u.changes.map (Statement.updateProject u.projectId) := by
  simp [statements, changes, Function.comp_def]

theorem exists?_eq_ok_iff {u : ProjectUpdate} :
    u.exists? db = .ok db' ↔
      .projects ∉ db.missing ∧ db.allowReading = .ok () ∧
        (∃ p ∈ db.projects, p.id = u.projectId.text) ∧ db' = db := by
  rw [exists?, Database.require_bind_eq_ok_iff, Statement.ite_ok_eq_ok_iff,
    Database.hasProject_eq_true_iff]
  simp

/-- Changes of one project made one after the other are one change. -/
theorem all_updateProject (id : Uuid) {changes : List (ProjectRow → ProjectRow)}
    (hid : ∀ c ∈ changes, ∀ p, (c p).id = p.id) (db : Database) (hdb : .projects ∉ db.missing)
    (hopen : db.refusal = none) :
    Statement.all (changes.map (Statement.updateProject id)) db =
      .ok { db with projects := db.projects.map fun p =>
              if p.id == id.text then changes.foldl (fun p c => c p) p else p } := by
  induction changes generalizing db with
  | nil => simp
  | cons c cs ih =>
    rw [List.forall_mem_cons] at hid
    rw [List.map_cons, Statement.all_cons_eq_ok_iff]
    -- The first change keeps the ids, so the others find the same row.
    have hfirst : ∀ p : ProjectRow,
        (if (if p.id == id.text then c p else p).id == id.text then
          cs.foldl (fun p c => c p) (if p.id == id.text then c p else p)
        else if p.id == id.text then c p else p) =
        if p.id == id.text then (c :: cs).foldl (fun p c => c p) p else p := by
      intro p
      by_cases hp : p.id = id.text
      · simp [hp, hid.1 p]
      · simp [hp]
    refine ⟨_, Statement.updateProject_eq_ok_iff.2 ⟨hdb, hopen, rfl⟩, ?_⟩
    rw [ih hid.2 { db with projects := db.projects.map fun p => if p.id == id.text then c p else p }
      hdb hopen, List.map_map]
    simp only [Function.comp_def, hfirst]

theorem statements_eq_ok_iff {u : ProjectUpdate} (hopen : db.refusal = none) :
    Statement.all u.statements db = .ok db' ↔
      .projects ∉ db.missing ∧ (∃ p ∈ db.projects, p.id = u.projectId.text) ∧
      db' = { db with projects := db.projects.map fun p =>
                if p.id == u.projectId.text then u.change p else p } := by
  rw [statements_eq, Statement.all_cons_eq_ok_iff]
  simp only [exists?_eq_ok_iff]
  constructor
  · rintro ⟨_, ⟨hdb, -, hproject, rfl⟩, h⟩
    rw [all_updateProject u.projectId u.id_changes _ hdb hopen] at h
    simp only [foldl_changes] at h
    exact ⟨hdb, hproject, (Except.ok.inj h).symm⟩
  · rintro ⟨hdb, hproject, rfl⟩
    refine ⟨db, ⟨hdb, Database.allowReading_of_refusal hopen, hproject, rfl⟩, ?_⟩
    rw [all_updateProject u.projectId u.id_changes db hdb hopen]
    simp only [foldl_changes]

end ProjectUpdate
end Gatehouse
