import Gatehouse.Proofs.Store.Reachable

/-!
# What operations do

For each operation: the conditions under which it takes place, on tables that conform to the schema,
and the tables it leaves then. Otherwise it leaves the tables as they were.
-/

namespace Gatehouse

namespace Database

variable {db : Database}

/-- Tables that conform to the schema and hold no project hold nothing. -/
theorem Conforms.eq_empty (hdb : db.Conforms) (h : db.projects = []) : db = .empty := by
  have hnone : ∀ {α : Type} {rows : List α} {f : α → String},
      (∀ r ∈ rows, f r ∈ db.projects.map (·.id)) → rows = [] := by
    intro α rows f hrows
    rw [List.eq_nil_iff_forall_not_mem]
    intro r hr
    simpa [h] using hrows r hr
  have horganizations := hnone hdb.organizationParents
  -- Users refer to organizations, and to projects only through them.
  have husers : db.users = [] := by
    rw [List.eq_nil_iff_forall_not_mem]
    intro u hu
    simpa [horganizations] using hdb.userParents u hu
  obtain ⟨projects, domains, organizations, users, keys, apiKeys, usage, missing, refusal⟩ := db
  simp only [empty, Database.mk.injEq]
  exact ⟨h, hnone hdb.domainParents, horganizations, husers, hnone hdb.keyParents,
    hnone hdb.apiKeyParents, hnone hdb.counterParents, hdb.complete, hdb.unlocked⟩

theorem Conforms.not_missing (hdb : db.Conforms) (t : Table) : t ∉ db.missing := by
  rw [hdb.complete]
  exact List.not_mem_nil

/-- The counters after one more email. -/
def countedUsage (projectId : Uuid) (day : Int) (db : Database) : List UsageRow :=
  if db.quotaUsage.any (·.isCounterOf projectId day) then
    db.quotaUsage.map fun c => if c.isCounterOf projectId day then c.next else c
  else db.quotaUsage ++ [⟨projectId.text, day, 1⟩]

end Database

namespace Store

open Database

variable {db db' : Database}

namespace Command

/-- The conditions under which an operation takes place. -/
def Fits : Command → Database → Prop
  | createConsoleProject p, db => db = .empty ∧ p.signingKey.projectId = p.projectId
  | createProject p, db => p.Fits db
  | updateProject u, db => ∃ p ∈ db.projects, p.id = u.projectId.text
  | createSigningKey key, db =>
    (∀ k ∈ db.signingKeys, k.id ≠ key.id.text) ∧ ∃ p ∈ db.projects, p.id = key.projectId.text
  | createApiKey key, db =>
    (∀ k ∈ db.apiKeys, k.secretDigest ≠ key.secretDigest) ∧
      (∀ k ∈ db.apiKeys, k.id ≠ key.id.text) ∧ ∃ p ∈ db.projects, p.id = key.projectId.text
  | revokeApiKey projectId id, db => ∃ k ∈ db.apiKeys, k.isKeyOf projectId id = true
  | countEmail projectId day, db =>
    (∃ c ∈ db.quotaUsage, c.isCounterOf projectId day = true) ∨
      ∃ p ∈ db.projects, p.id = projectId.text

/-- The tables that an operation leaves if it takes place. -/
def effect : Command → Database → Database
  | createConsoleProject p, _ => p.tables
  | createProject p, db => p.tables db
  | updateProject u, db =>
    { db with projects := db.projects.map fun p =>
                if p.id == u.projectId.text then u.change p else p }
  | createSigningKey key, db => { db with signingKeys := db.signingKeys ++ [key.row] }
  | createApiKey key, db => { db with apiKeys := db.apiKeys ++ [key.row] }
  | revokeApiKey projectId id, db =>
    { db with apiKeys := db.apiKeys.map fun k =>
                if k.isKeyOf projectId id then { k with revoked := true } else k }
  | countEmail projectId day, db => { db with quotaUsage := db.countedUsage projectId day }

theorem statements_createConsoleProject {p : NewConsoleProject} (hdb : db.Conforms) :
    Statement.all p.statements db = .ok db' ↔
      (db = .empty ∧ p.signingKey.projectId = p.projectId) ∧ db' = p.tables := by
  constructor
  · intro h
    obtain rfl := hdb.eq_empty (p.projects_eq_nil_of_statements h)
    rw [p.statements_empty, Statement.ite_ok_eq_ok_iff] at h
    exact ⟨⟨rfl, h.1⟩, h.2⟩
  · rintro ⟨⟨rfl, hkey⟩, rfl⟩
    rw [p.statements_empty, if_pos hkey]

theorem statements_countEmail {projectId : Uuid} {day : Int} (hdb : db.Conforms) :
    Statement.countEmail projectId day db = .ok db' ↔
      ((∃ c ∈ db.quotaUsage, c.isCounterOf projectId day = true) ∨
        ∃ p ∈ db.projects, p.id = projectId.text) ∧
      db' = { db with quotaUsage := db.countedUsage projectId day } := by
  rw [Statement.countEmail_eq_ok_iff, countedUsage]
  simp only [hdb.not_missing, hdb.unlocked, not_false_eq_true, true_and]
  by_cases hcounter : ∃ c ∈ db.quotaUsage, c.isCounterOf projectId day = true
  · have hany : db.quotaUsage.any (·.isCounterOf projectId day) = true :=
      List.any_eq_true.2 hcounter
    have hnone : ¬∀ c ∈ db.quotaUsage, c.isCounterOf projectId day = false := by
      simpa using hcounter
    simp only [hcounter, hnone, if_pos hany, true_and, false_and, or_false, true_or]
  · have hany : ¬db.quotaUsage.any (·.isCounterOf projectId day) = true := by
      rwa [List.any_eq_true]
    have hnone : (∀ c ∈ db.quotaUsage, c.isCounterOf projectId day = false) ↔ True := by
      simpa using hcounter
    simp only [hcounter, hnone, if_neg hany, false_and, false_or, true_and]

/-- The statements of an operation succeed exactly under its conditions, and have its effect. -/
theorem statements_eq_ok_iff (c : Command) (hdb : db.Conforms) :
    Statement.all c.statements db = .ok db' ↔ c.Fits db ∧ db' = c.effect db := by
  cases c with
  | createConsoleProject p => exact statements_createConsoleProject hdb
  | createProject p => exact NewProject.statements_eq_ok_iff hdb.complete hdb.unlocked
  | updateProject u =>
    rw [statements, ProjectUpdate.statements_eq_ok_iff hdb.unlocked]
    simp only [hdb.not_missing, hdb.unlocked, not_false_eq_true, true_and, Fits, effect]
  | createSigningKey key =>
    rw [statements, Statement.all_singleton_eq_ok_iff, Statement.insertSigningKey_eq_ok_iff]
    simp only [hdb.not_missing, hdb.unlocked, not_false_eq_true, true_and, and_assoc, Fits, effect,
      SigningKey.row]
  | createApiKey key =>
    rw [statements, Statement.all_singleton_eq_ok_iff, Statement.insertApiKey_eq_ok_iff]
    simp only [hdb.not_missing, hdb.unlocked, not_false_eq_true, true_and, and_assoc, Fits, effect,
      NewApiKey.row]
  | revokeApiKey projectId id =>
    rw [statements, Statement.all_singleton_eq_ok_iff, Statement.revokeApiKey_eq_ok_iff]
    simp only [hdb.not_missing, hdb.unlocked, not_false_eq_true, true_and, Fits, effect]
  | countEmail projectId day =>
    rw [statements, Statement.all_singleton_eq_ok_iff]
    exact statements_countEmail hdb

/-- An operation takes place, or leaves the tables as they were. -/
theorem after_cases (c : Command) (hdb : db.Conforms) :
    c.after db = db ∨ c.Fits db ∧ c.after db = c.effect db := by
  rw [c.after_eq]
  cases h : Statement.all c.statements db with
  | error e => exact .inl (afterAll_of_error h)
  | ok db' =>
    rw [afterAll_of_ok h]
    exact .inr ((c.statements_eq_ok_iff hdb).1 h)

theorem after_of_fits {c : Command} (hdb : db.Conforms) (h : c.Fits db) :
    c.after db = c.effect db := by
  rw [c.after_eq]
  exact afterAll_of_ok ((c.statements_eq_ok_iff hdb).2 ⟨h, rfl⟩)

theorem after_of_not_fits {c : Command} (hdb : db.Conforms) (h : ¬ c.Fits db) :
    c.after db = db :=
  (c.after_cases hdb).resolve_right fun hfits => h hfits.1

/-! ## Signing keys -/

/-- The signing keys that an operation writes if it takes place. -/
def newKeys : Command → List SigningKey
  | createConsoleProject p => [p.signingKey]
  | createProject p => [p.signingKey]
  | createSigningKey key => [key]
  | _ => []

theorem signingKeys_effect {c : Command} (h : c.Fits db) :
    (c.effect db).signingKeys = db.signingKeys ++ c.newKeys.map SigningKey.row := by
  cases c with
  | createConsoleProject p =>
    obtain ⟨rfl, -⟩ := h
    rfl
  | createProject p => rfl
  | createSigningKey key => rfl
  | _ => exact (List.append_nil _).symm

/-- The signing keys stay as they are, or those that the operation writes are put behind them. -/
theorem signingKeys_after (c : Command) (hdb : db.Conforms) :
    (c.after db).signingKeys = db.signingKeys ∨
      (c.after db).signingKeys = db.signingKeys ++ c.newKeys.map SigningKey.row := by
  rcases c.after_cases hdb with hsame | ⟨hfits, heffect⟩
  · exact .inl (by rw [hsame])
  · exact .inr (by rw [heffect, signingKeys_effect hfits])

/-! ## API keys -/

/-- Whether an operation writes API keys. -/
def writesApiKeys : Command → Bool
  | createApiKey _ | revokeApiKey _ _ => true
  | _ => false

theorem apiKeys_after {c : Command} (hdb : db.Conforms) (hc : c.writesApiKeys = false) :
    (c.after db).apiKeys = db.apiKeys := by
  rcases c.after_cases hdb with hsame | ⟨hfits, heffect⟩
  · rw [hsame]
  · rw [heffect]
    cases c with
    | createConsoleProject p =>
      -- The console is made in an empty store only.
      obtain ⟨rfl, -⟩ := hfits
      rfl
    | createApiKey key => cases hc
    | revokeApiKey projectId id => cases hc
    | _ => rfl

/-! ## The schema -/

/-- Each statement of an operation keeps to the schema. -/
theorem statements_conform (c : Command) : ∀ s ∈ c.statements, ∀ db db' : Database,
    db.Conforms → s db = .ok db' → db'.Conforms := by
  cases c with
  | createConsoleProject p => exact p.statements_conform
  | createProject p => exact p.statements_conform
  | updateProject u =>
    rw [statements, ProjectUpdate.statements_eq, List.forall_mem_cons, List.forall_mem_map]
    constructor
    · intro db db' hdb h
      obtain ⟨-, -, -, rfl⟩ := ProjectUpdate.exists?_eq_ok_iff.1 h
      exact hdb
    · intro change hchange db db' hdb h
      exact Statement.updateProject_conforms (u.harmless_changes change hchange) hdb h
  | createSigningKey key =>
    rw [statements, List.forall_mem_singleton]
    exact fun _ _ => Statement.insertSigningKey_conforms key.id.writes_text
  | createApiKey key =>
    rw [statements, List.forall_mem_singleton]
    exact fun _ _ => Statement.insertApiKey_conforms key.id.writes_text
  | revokeApiKey projectId id =>
    rw [statements, List.forall_mem_singleton]
    exact fun _ _ => Statement.revokeApiKey_conforms
  | countEmail projectId day =>
    rw [statements, List.forall_mem_singleton]
    exact fun _ _ => Statement.countEmail_conforms

/-- Every operation keeps to the schema, whatever its arguments. -/
theorem conforms_after (c : Command) (hdb : db.Conforms) : (c.after db).Conforms := by
  rw [c.after_eq]
  cases h : Statement.all c.statements db with
  | error e =>
    rw [afterAll_of_error h]
    exact hdb
  | ok db' =>
    rw [afterAll_of_ok h]
    exact Statement.all_preserves c.statements_conform hdb h

end Command

end Store
end Gatehouse
