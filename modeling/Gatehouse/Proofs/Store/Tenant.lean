import Gatehouse.Proofs.Store.Atomicity

/-!
# The part of a tenant

What belongs to a project: its row, its trusted domains, its keys and its counters. An operation
that does not name the project leaves this part as it was, whatever else it does and however it
ends, and what is read about the project is read from this part alone. So nothing that happens to
other projects can be seen from here.
-/

namespace Gatehouse

/-! ## Rows apart -/

/-- A change of some rows cannot be seen among others, if it does not turn any row into one of
these. -/
theorem filter_map_ite_of_apart {α : Type} {rows : List α} {mine picks : α → Bool} {change : α → α}
    (hbefore : ∀ r, picks r = true → mine r = false)
    (hafter : ∀ r, picks r = true → mine (change r) = false) :
    (rows.map fun r => if picks r then change r else r).filter mine = rows.filter mine := by
  induction rows with
  | nil => rfl
  | cons r rows ih =>
    rw [List.map_cons]
    by_cases hp : picks r = true
    · rw [if_pos hp, List.filter_cons_of_neg (Bool.eq_false_iff.1 (hafter r hp)),
        List.filter_cons_of_neg (Bool.eq_false_iff.1 (hbefore r hp)), ih]
    · rw [if_neg hp, List.filter_cons, List.filter_cons, ih]

/-- Rows that are put behind others cannot be seen among those they do not belong to. -/
theorem filter_append_of_apart {α : Type} {rows new : List α} {mine : α → Bool}
    (h : ∀ r ∈ new, mine r = false) : (rows ++ new).filter mine = rows.filter mine := by
  have hnone : new.filter mine = [] := by
    rw [List.filter_eq_nil_iff]
    exact fun r hr => Bool.eq_false_iff.1 (h r hr)
  rw [List.filter_append, hnone, List.append_nil]

theorem filter_concat_of_apart {α : Type} {rows : List α} {row : α} {mine : α → Bool}
    (h : mine row = false) : (rows ++ [row]).filter mine = rows.filter mine :=
  filter_append_of_apart (List.forall_mem_singleton.2 h)

namespace Database

/-- The part of the tables that belongs to a project. -/
def tenant (id : Uuid) (db : Database) : Database where
  projects := db.projects.filter (·.id == id.text)
  trustedDomains := db.trustedDomains.filter (·.projectId == id.text)
  signingKeys := db.signingKeys.filter (·.projectId == id.text)
  apiKeys := db.apiKeys.filter (·.projectId == id.text)
  quotaUsage := db.quotaUsage.filter (·.projectId == id.text)
  missing := db.missing
  refusal := db.refusal

/-! ## What is read about a project -/

section Queries

variable (id : Uuid) (db : Database)

theorem require_tenant (ts : List Table) : (db.tenant id).require ts = db.require ts := by
  induction ts with
  | nil => rfl
  | cons t ts ih => rw [require, require, ih, tenant]

theorem getProject_tenant : (db.tenant id).getProject id = db.getProject id := by
  have hrow : (db.tenant id).project? id = db.project? id := by
    rw [project?, project?, tenant, List.find?_filter]
    simp only [and_self, Bool.decide_eq_true]
  have hdomains : (db.tenant id).domainsOf id = db.domainsOf id := by
    have hfilter : (db.tenant id).trustedDomains.filter (·.projectId == id.text) =
        db.trustedDomains.filter (·.projectId == id.text) := by
      rw [tenant, List.filter_filter]
      simp only [Bool.and_self]
    rw [domainsOf, domainsOf, hfilter]
  rw [getProject, getProject, hrow, hdomains, require_tenant, require_tenant]

theorem activeSigningKeys_tenant (now : Int) :
    (db.tenant id).activeSigningKeys id now = db.activeSigningKeys id now := by
  have hfilter : (db.tenant id).signingKeys.filter
      (fun k => k.projectId == id.text && now < k.expiresAt) =
      db.signingKeys.filter fun k => k.projectId == id.text && now < k.expiresAt := by
    rw [tenant, List.filter_filter]
    refine List.filter_congr fun k _ => ?_
    cases k.projectId == id.text
    · rfl
    · exact Bool.and_true _
  rw [activeSigningKeys, activeSigningKeys, activeKeyRows, activeKeyRows, hfilter, require_tenant]

end Queries

section Parts

variable {id : Uuid} {db db' : Database}

theorem mem_apiKeys_tenant {row : ApiKeyRow} :
    row ∈ (db.tenant id).apiKeys ↔ row ∈ db.apiKeys ∧ row.projectId = id.text := by
  rw [tenant, List.mem_filter, beq_iff_eq]

/-- A project that exists can be read, and it is the one that was asked for. -/
theorem Conforms.exists_getProject (hdb : db.Conforms) (h : id.text ∈ db.projects.map (·.id)) :
    ∃ project, db.getProject id = .ok project ∧ project.id = id := by
  obtain ⟨row, hrow, hid⟩ := List.mem_map.1 h
  obtain ⟨organizationId, quota, -, -, hread⟩ :=
    hdb.getProject_of_some (hdb.project?_of_mem hrow hid)
  exact ⟨_, hread, rfl⟩

end Parts

end Database

namespace Store

open Database

variable {id : Uuid} {db : Database}

/-! ## Operations that do not name a project -/

/-- The projects that the arguments of an operation name: as the one that is made, changed or
counted for, or that owns a key. -/
def Command.names : Command → List Uuid
  | createConsoleProject p => [p.projectId, p.signingKey.projectId]
  | createProject p => [p.projectId, p.signingKey.projectId]
  | updateProject u => [u.projectId]
  | createSigningKey key => [key.projectId]
  | createApiKey key => [key.projectId]
  | revokeApiKey projectId _ => [projectId]
  | countEmail projectId _ => [projectId]

/-- The ids of different projects are different texts. -/
theorem text_beq_eq_false {other : Uuid} (h : other ≠ id) : (other.text == id.text) = false :=
  beq_eq_false_iff_ne.2 fun htext => h (Uuid.text_injective htext)

/-- A text is the id of another project, so it is not the id of this one. -/
theorem beq_eq_false_of_beq {other : Uuid} (h : other ≠ id) {text : String}
    (htext : (text == other.text) = true) : (text == id.text) = false := by
  rw [beq_iff_eq.1 htext]
  exact text_beq_eq_false h

theorem tenant_tables_console {p : NewConsoleProject} (hproject : p.projectId ≠ id)
    (hkey : p.signingKey.projectId ≠ id) : p.tables.tenant id = Database.empty.tenant id := by
  have hdomains : p.domainRows.filter (·.projectId == id.text) = [] := by
    rw [List.filter_eq_nil_iff]
    intro row hrow
    have howner : row.projectId = p.projectId.text := by
      rw [NewConsoleProject.domainRows] at hrow
      split at hrow
      · rw [List.mem_singleton.1 hrow]
      · rcases List.mem_cons.1 hrow with rfl | hrow
        · rfl
        · rw [List.mem_singleton.1 hrow]
    rw [howner]
    exact Bool.eq_false_iff.1 (text_beq_eq_false hproject)
  have hrow : [p.linkedRow].filter (·.id == id.text) = [] :=
    List.filter_cons_of_neg (Bool.eq_false_iff.1 (text_beq_eq_false hproject))
  have hkeys : [p.signingKey.row].filter (·.projectId == id.text) = [] :=
    List.filter_cons_of_neg (Bool.eq_false_iff.1 (text_beq_eq_false hkey))
  rw [tenant, tenant, NewConsoleProject.tables, hrow, hdomains, hkeys]
  rfl

theorem tenant_tables_project {p : NewProject} (hproject : p.projectId ≠ id)
    (hkey : p.signingKey.projectId ≠ id) : (p.tables db).tenant id = db.tenant id := by
  have hprojects : (db.projects ++ [p.projectRow]).filter (·.id == id.text) =
      db.projects.filter (·.id == id.text) := filter_concat_of_apart (text_beq_eq_false hproject)
  have hdomains : (db.trustedDomains ++ Statement.addedDomains p.domainRow db).filter
      (·.projectId == id.text) = db.trustedDomains.filter (·.projectId == id.text) := by
    apply filter_append_of_apart
    intro row hrow
    rw [Statement.addedDomains] at hrow
    split at hrow
    · exact absurd hrow List.not_mem_nil
    · rw [List.mem_singleton.1 hrow]
      exact text_beq_eq_false hproject
  have hkeys : (db.signingKeys ++ [p.signingKey.row]).filter (·.projectId == id.text) =
      db.signingKeys.filter (·.projectId == id.text) :=
    filter_concat_of_apart (text_beq_eq_false hkey)
  rw [tenant, tenant, NewProject.tables, hprojects, hdomains, hkeys]

theorem filter_countedUsage {projectId : Uuid} (day : Int) (h : projectId ≠ id) :
    (db.countedUsage projectId day).filter (·.projectId == id.text) =
      db.quotaUsage.filter (·.projectId == id.text) := by
  have hother : ∀ c : UsageRow, c.isCounterOf projectId day = true →
      (c.projectId == id.text) = false := by
    intro c hc
    rw [UsageRow.isCounterOf, Bool.and_eq_true] at hc
    exact beq_eq_false_of_beq h hc.1
  rw [countedUsage]
  split
  · exact filter_map_ite_of_apart hother hother
  · exact filter_concat_of_apart (text_beq_eq_false h)

/-- An operation that does not name a project leaves its part as it was. -/
theorem Command.tenant_after (c : Command) (hdb : db.Conforms) (hc : id ∉ c.names) :
    (c.after db).tenant id = db.tenant id := by
  rcases c.after_cases hdb with hsame | ⟨hfits, heffect⟩
  · rw [hsame]
  rw [heffect]
  cases c with
  | createConsoleProject p =>
    obtain ⟨hproject, hkey⟩ : p.projectId ≠ id ∧ p.signingKey.projectId ≠ id := by
      simpa [names, eq_comm] using hc
    obtain ⟨rfl, -⟩ := hfits
    exact tenant_tables_console hproject hkey
  | createProject p =>
    obtain ⟨hproject, hkey⟩ : p.projectId ≠ id ∧ p.signingKey.projectId ≠ id := by
      simpa [names, eq_comm] using hc
    exact tenant_tables_project hproject hkey
  | updateProject u =>
    have hproject : u.projectId ≠ id := by simpa [names, eq_comm] using hc
    have hother : ∀ p : ProjectRow, (p.id == u.projectId.text) = true →
        (p.id == id.text) = false := fun _ hp => beq_eq_false_of_beq hproject hp
    have hprojects : (db.projects.map fun p =>
        if p.id == u.projectId.text then u.change p else p).filter (·.id == id.text) =
        db.projects.filter (·.id == id.text) := filter_map_ite_of_apart hother hother
    rw [tenant, tenant, effect, hprojects]
  | createSigningKey key =>
    have hproject : key.projectId ≠ id := by simpa [names, eq_comm] using hc
    have hkeys : (db.signingKeys ++ [key.row]).filter (·.projectId == id.text) =
        db.signingKeys.filter (·.projectId == id.text) :=
      filter_concat_of_apart (text_beq_eq_false hproject)
    rw [tenant, tenant, effect, hkeys]
  | createApiKey key =>
    have hproject : key.projectId ≠ id := by simpa [names, eq_comm] using hc
    have hkeys : (db.apiKeys ++ [key.row]).filter (·.projectId == id.text) =
        db.apiKeys.filter (·.projectId == id.text) :=
      filter_concat_of_apart (text_beq_eq_false hproject)
    rw [tenant, tenant, effect, hkeys]
  | revokeApiKey projectId keyId =>
    have hproject : projectId ≠ id := by simpa [names, eq_comm] using hc
    -- A key of the project is revoked under its own project's id only, whatever key is named.
    have hother : ∀ k : ApiKeyRow, k.isKeyOf projectId keyId = true →
        (k.projectId == id.text) = false := by
      intro k hk
      rw [ApiKeyRow.isKeyOf, Bool.and_eq_true] at hk
      exact beq_eq_false_of_beq hproject hk.1
    have hkeys : (db.apiKeys.map fun k =>
        if k.isKeyOf projectId keyId then { k with revoked := true } else k).filter
          (·.projectId == id.text) = db.apiKeys.filter (·.projectId == id.text) :=
      filter_map_ite_of_apart hother hother
    rw [tenant, tenant, effect, hkeys]
  | countEmail projectId day =>
    have hproject : projectId ≠ id := by simpa [names, eq_comm] using hc
    rw [tenant, tenant, effect, filter_countedUsage day hproject]

/-! ## Runs that do not name a project -/

/-- Operations lead from one world to another, none of which names a project. They may fail, and
those that only read may ask for anything. -/
inductive Elsewhere {σ : Type} (id : Uuid) (start : World σ) : World σ → Prop where
  | refl : Elsewhere id start start
  | write {w : World σ} (c : Command) (hc : id ∉ c.names) (h : Elsewhere id start w) :
      Elsewhere id start (c.call.run w).2
  | read {w : World σ} (r : Request) (h : Elsewhere id start w) :
      Elsewhere id start (r.call.run w).2

section Runs

variable {σ : Type} {start w : World σ}

theorem Elsewhere.reachable (h : Elsewhere id start w) (hstart : Reachable start.tables) :
    Reachable w.tables := by
  induction h with
  | refl => exact hstart
  | write c _ _ ih =>
    rw [c.tables_run_call]
    exact .step c ih
  | read r _ ih =>
    rw [r.keeps_call]
    exact ih

/-- Whatever happens elsewhere, the part of a project stays as it was. -/
theorem Elsewhere.tenant (h : Elsewhere id start w) (hstart : Reachable start.tables) :
    w.tables.tenant id = start.tables.tenant id := by
  induction h with
  | refl => rfl
  | write c hc hpast ih =>
    rw [c.tables_run_call, c.tenant_after (hpast.reachable hstart).conforms hc]
    exact ih
  | read r _ ih =>
    rw [r.keeps_call]
    exact ih

end Runs

end Store
end Gatehouse
