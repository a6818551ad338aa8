import Gatehouse.Proofs.Store.Coherence
import Gatehouse.Proofs.Store.Query

/-!
# The invariant of the store

Every state that operations can lead to is coherent: the tables refer to each other as they should,
and nothing in them is malformed when it is read back, except a counter of emails that has outgrown
its type.
-/

namespace Gatehouse

/-! ## Results without malformed values -/

/-- A result that is no failure about a malformed value. -/
def Plain {α : Type} (r : Except StoreError α) : Prop :=
  ∀ detail, r ≠ .error (.malformedValue detail)

namespace Plain

variable {α β : Type}

theorem ok (a : α) : Plain (.ok a : Except StoreError α) := nofun

theorem notFound (detail : String) : Plain (.error (.notFound detail) : Except StoreError α) :=
  nofun

theorem alreadyExists (detail : String) :
    Plain (.error (.alreadyExists detail) : Except StoreError α) := nofun

theorem preconditionFailed (detail : String) :
    Plain (.error (.preconditionFailed detail) : Except StoreError α) := nofun

theorem ite {c : Prop} [Decidable c] {r s : Except StoreError α} (hr : Plain r) (hs : Plain s) :
    Plain (if c then r else s) := by
  split
  · exact hr
  · exact hs

theorem bind {r : Except StoreError α} {f : α → Except StoreError β} (hr : Plain r)
    (hf : ∀ a, r = .ok a → Plain (f a)) : Plain (r >>= f) := by
  cases r with
  | error e => exact fun detail h => hr detail (congrArg Except.error (Except.error.inj h))
  | ok a => exact hf a rfl

/-- A refusal says nothing about values. -/
theorem ofRefusal (code : Nat) (message : String) :
    Plain (.error (.ofRefusal code message) : Except StoreError α) := by
  rw [StoreError.ofRefusal]
  split
  · exact nofun
  · exact nofun

theorem require_bind {f : Unit → Except StoreError α} (db : Database) (ts : List Table)
    (hf : Plain (f ())) : Plain (db.require ts >>= f) := by
  induction ts with
  | nil =>
    rw [Database.require, Database.allowReading]
    cases db.refusal with
    | none => exact hf
    | some r =>
      dsimp only
      split
      · exact ofRefusal r.code r.message
      · exact hf
  | cons t ts ih =>
    rw [Database.require]
    split
    · exact ofRefusal 1 _
    · exact ih

theorem writable_bind {f : Unit → Except StoreError α} (db : Database) (ts : List Table)
    (hf : Plain (f ())) : Plain (db.writable ts >>= f) := by
  rw [Database.writable, bind_assoc]
  refine require_bind db ts ?_
  rw [Database.allow]
  cases db.refusal with
  | none => exact hf
  | some r => exact ofRefusal r.code r.message

end Plain

namespace Statement

/-- Whatever a list of statements fails for is what one of them fails for. -/
theorem plain_all {ss : List Statement} (h : ∀ s ∈ ss, ∀ db, Plain (s db)) (db : Database) :
    Plain (all ss db) := by
  induction ss generalizing db with
  | nil => exact .ok db
  | cons s ss ih =>
    rw [List.forall_mem_cons] at h
    rw [all_cons]
    exact (h.1 db).bind fun mid _ => ih h.2 mid

theorem plain_insertProject (row : ProjectRow) (db : Database) : Plain (insertProject row db) :=
  .writable_bind _ _
    (.ite (.alreadyExists _) (.ite (.alreadyExists _) (.ite (.alreadyExists _) (.ok _))))

theorem plain_insertTrustedDomain (row : TrustedDomainRow) (db : Database) :
    Plain (insertTrustedDomain row db) :=
  .writable_bind _ _ (.ite (.ok _) (.ite (.ok _) (.notFound _)))

theorem plain_insertOrganization (row : OrganizationRow) (db : Database) :
    Plain (insertOrganization row db) :=
  .writable_bind _ _ (.ite (.alreadyExists _) (.ite (.ok _) (.notFound _)))

theorem plain_insertSigningKey (row : SigningKeyRow) (db : Database) :
    Plain (insertSigningKey row db) :=
  .writable_bind _ _ (.ite (.alreadyExists _) (.ite (.ok _) (.notFound _)))

/-- Statements fail for other reasons than malformed values. -/
theorem plain_of_mem (c : Store.Command) : ∀ s ∈ c.statements, ∀ db, Plain (s db) := by
  cases c with
  | createConsoleProject p =>
    rw [Store.Command.statements, NewConsoleProject.statements]
    simp only [List.forall_mem_cons, List.not_mem_nil, false_implies, implies_true, and_true]
    refine ⟨fun db => ?_, fun db => ?_, fun db => ?_, fun db => ?_, fun db => ?_, fun db => ?_,
      fun db => ?_, fun db => ?_⟩
    · exact .require_bind _ _ (.ite (.ok _) (.preconditionFailed _))
    · exact plain_insertProject _ db
    · exact plain_insertTrustedDomain _ db
    · exact plain_insertTrustedDomain _ db
    · exact plain_insertOrganization _ db
    · exact .writable_bind _ _ (.ite (.alreadyExists _) (.ok _))
    · exact .writable_bind _ _
        (.ite (.alreadyExists _) (.ite (.alreadyExists _) (.ite (.ok _) (.notFound _))))
    · exact plain_insertSigningKey _ db
  | createProject p =>
    rw [Store.Command.statements, NewProject.statements]
    simp only [List.forall_mem_cons, List.not_mem_nil, false_implies, implies_true, and_true]
    refine ⟨fun db => ?_, fun db => ?_, fun db => ?_, fun db => ?_, fun db => ?_⟩
    · refine .require_bind _ _ ?_
      cases db.project? p.consoleProjectId with
      | none => exact .notFound _
      | some row => exact .ite (.ok _) (.preconditionFailed _)
    · exact plain_insertOrganization _ db
    · exact plain_insertProject _ db
    · exact plain_insertTrustedDomain _ db
    · exact plain_insertSigningKey _ db
  | updateProject u =>
    rw [Store.Command.statements, ProjectUpdate.statements_eq, List.forall_mem_cons,
      List.forall_mem_map]
    constructor
    · exact fun db => .require_bind _ _ (.ite (.ok _) (.notFound _))
    · exact fun change _ db => .writable_bind _ _ (.ok _)
  | createSigningKey key =>
    rw [Store.Command.statements, List.forall_mem_singleton]
    exact plain_insertSigningKey key.row
  | createApiKey key =>
    rw [Store.Command.statements, List.forall_mem_singleton]
    exact fun db => .writable_bind _ _
      (.ite (.alreadyExists _) (.ite (.alreadyExists _) (.ite (.ok _) (.notFound _))))
  | revokeApiKey projectId id =>
    rw [Store.Command.statements, List.forall_mem_singleton]
    exact fun db => .writable_bind _ _ (.ite (.ok _) (.notFound _))
  | countEmail projectId day =>
    rw [Store.Command.statements, List.forall_mem_singleton]
    exact fun db => .writable_bind _ _ (.ite (.ok _) (.ite (.ok _) (.notFound _)))

end Statement

/-! ## Reading -/

/-- Whatever is read from the tables has the form it should have. -/
structure Database.Legible (db : Database) : Prop where
  project : ∀ id, Plain (db.getProject id)
  signingKeys : ∀ projectId now, Plain (db.activeSigningKeys projectId now)
  apiKey : ∀ digest, Plain (db.findApiKey digest)
  backedProject : ∀ organizationId, Plain (db.backedProject organizationId)

namespace Database.Conforms

variable {db : Database}

theorem legible (hdb : db.Conforms) : db.Legible where
  project id := by
    cases h : db.project? id with
    | none =>
      rw [hdb.getProject_of_none h]
      exact .notFound _
    | some row =>
      obtain ⟨organizationId, quota, -, -, hread⟩ := hdb.getProject_of_some h
      rw [hread]
      exact .ok _
  signingKeys projectId now := by
    obtain ⟨keys, hkeys, -⟩ := hdb.activeSigningKeys projectId now
    rw [hkeys]
    exact .ok keys
  apiKey digest := by
    by_cases h : ∃ row ∈ db.apiKeys, row.secretDigest = digest
    · obtain ⟨row, hrow, rfl⟩ := h
      obtain ⟨key, hkey⟩ := hdb.exists_holds hrow
      rw [hdb.findApiKey_of_mem hrow hkey]
      exact .ok _
    · rw [hdb.findApiKey_of_not_mem fun row hrow heq => h ⟨row, hrow, heq⟩]
      exact .ok _
  backedProject organizationId := by
    by_cases h : ∃ row ∈ db.projects, row.organizationId = some organizationId.text
    · obtain ⟨row, hrow, horg⟩ := h
      obtain ⟨id, hid⟩ := hdb.projectTexts row hrow
      rw [hdb.backedProject_of_mem hrow horg hid.symm]
      exact .ok _
    · rw [hdb.backedProject_of_not_mem fun row hrow heq => h ⟨row, hrow, heq⟩]
      exact .notFound _

/-- A counter is malformed only if it has outgrown 32 bits. -/
theorem usageOn_malformed (hdb : db.Conforms) {projectId : Uuid} {day : Int} {detail : String}
    (h : db.usageOn projectId day = .error (.malformedValue detail)) :
    ∃ row ∈ db.quotaUsage, row.isCounterOf projectId day = true ∧ Limit.bits32 ≤ row.usage ∧
      detail = s!"quota usage {row.usage}" := by
  rw [usageOn] at h
  cases hfind : db.quotaUsage.find? (·.isCounterOf projectId day) with
  | none =>
    rw [hfind] at h
    cases h
  | some row =>
    have hmem := List.mem_of_find?_eq_some hfind
    have hcount := hdb.counts row hmem
    rw [hfind] at h
    dsimp only at h
    have hcounter : row.isCounterOf projectId day = true := by
      simpa using List.find?_some hfind
    refine ⟨row, hmem, hcounter, ?_⟩
    split at h
    · cases h
    · rw [readCount] at h
      split at h
      · cases h
      · rename_i hrange
        refine ⟨by omega, ?_⟩
        exact (StoreError.malformedValue.inj (Except.error.inj h)).symm

end Database.Conforms

namespace Store

/-- An operation that answers with a malformed value has counted an email past 32 bits. -/
theorem Command.run_malformed {σ : Type} (c : Command) {w : World σ} (hdb : w.tables.Conforms)
    {detail : String} (h : (c.call.run w).1 = .error (.malformedValue detail)) :
    ∃ projectId day, c = .countEmail projectId day ∧
      ∃ row ∈ (c.after w.tables).quotaUsage, row.isCounterOf projectId day = true ∧
        Limit.bits32 ≤ row.usage ∧ detail = s!"quota usage {row.usage}" := by
  rw [(c.run_call w).1] at h
  -- No statement answers so. What is left is the reading of the answer, on the tables afterwards,
  -- which conform to the schema again.
  have hafter := c.conforms_after hdb
  rw [c.after_eq] at hafter ⊢
  cases hall : Statement.all c.statements w.tables with
  | error e =>
    rw [hall] at h
    have hplain := Statement.plain_all (Statement.plain_of_mem c) w.tables
    rw [hall] at hplain
    exact absurd (congrArg Except.error (Except.error.inj h)) (hplain detail)
  | ok db =>
    rw [afterAll_of_ok hall] at hafter ⊢
    rw [hall] at h
    cases c with
    | updateProject u =>
      have hplain := (hafter.legible.project u.projectId).bind fun _ _ => .ok ()
      exact absurd h (hplain detail)
    | countEmail projectId day =>
      refine ⟨projectId, day, rfl, hafter.usageOn_malformed ?_⟩
      have hanswer : (db.usageOn projectId day >>= fun _ => .ok ()) =
          .error (.malformedValue detail) := h
      cases husage : db.usageOn projectId day with
      | error e =>
        rw [husage] at hanswer
        exact congrArg Except.error (Except.error.inj hanswer)
      | ok n =>
        rw [husage] at hanswer
        cases hanswer
    | _ => cases h

end Store

/-! ## Coherence -/

/-- The tables are coherent: they conform to the schema, and projects and organizations belong
together. -/
structure Database.Coherent (db : Database) : Prop extends db.Conforms where
  /-- The store is empty, or one project is the console and owns the organizations. -/
  console : db = .empty ∨ ∃ c, db.projects.filter (·.isConsole) = [c] ∧
    ∀ o ∈ db.organizations, o.projectId = c.id
  /-- Each project is managed by one organization. -/
  manager : ∀ p ∈ db.projects, ∃! o, o ∈ db.organizations ∧ p.organizationId = some o.id
  /-- Each organization manages one project. -/
  managed : ∀ o ∈ db.organizations, ∃! p, p ∈ db.projects ∧ p.organizationId = some o.id
  cookies : ∀ p ∈ db.projects, ⟨p.id, p.cookieDomain⟩ ∈ db.trustedDomains

namespace Database

variable {db : Database}

theorem filter_isConsole_eq_singleton (hdb : db.Conforms) {c : ProjectRow} (hc : c ∈ db.projects)
    (hconsole : c.isConsole = true) : db.projects.filter (·.isConsole) = [c] := by
  have hall : ∀ p ∈ db.projects.filter (·.isConsole), p = c := by
    intro p hp
    obtain ⟨hmem, hp'⟩ := List.mem_filter.1 hp
    exact eq_of_nodup_map hdb.projectIds hmem hc (hdb.consoles p hmem c hc hp' hconsole)
  -- A list without repetitions in which all rows are this one has length one.
  have hrep := List.eq_replicate_of_mem hall
  have hnodup : (db.projects.filter (·.isConsole)).Nodup :=
    (List.Nodup.of_map _ hdb.projectIds).filter _
  have hmem : c ∈ db.projects.filter (·.isConsole) := List.mem_filter.2 ⟨hc, hconsole⟩
  have hpos : 0 < (db.projects.filter (·.isConsole)).length := List.length_pos_of_mem hmem
  rw [hrep, List.nodup_replicate] at hnodup
  rw [hrep, show (db.projects.filter (·.isConsole)).length = 1 by omega]
  rfl

theorem Conforms.coherent (hdb : db.Conforms) (hgov : db.Governed) : db.Coherent where
  toConforms := hdb
  console := by
    by_cases h : db.projects = []
    · exact .inl (hdb.eq_empty h)
    · obtain ⟨c, hc, hconsole⟩ := hgov.console h
      exact .inr ⟨c, filter_isConsole_eq_singleton hdb hc hconsole, hgov.owned c hc hconsole⟩
  manager := by
    intro p hp
    have hmem : p.organizationId ∈ db.organizations.map fun o => some o.id :=
      hgov.managed ▸ List.mem_map_of_mem hp
    obtain ⟨o, ho, heq⟩ := List.mem_map.1 hmem
    refine ⟨o, ⟨ho, heq.symm⟩, ?_⟩
    rintro o' ⟨ho', heq'⟩
    exact eq_of_nodup_map hdb.organizationIds ho' ho (Option.some.inj (heq'.symm.trans heq.symm))
  managed := by
    intro o ho
    have hmem : some o.id ∈ db.projects.map (·.organizationId) :=
      hgov.managed ▸ List.mem_map_of_mem ho
    obtain ⟨p, hp, heq⟩ := List.mem_map.1 hmem
    refine ⟨p, ⟨hp, heq⟩, ?_⟩
    rintro p' ⟨hp', heq'⟩
    have hsome : p'.organizationId.isSome = true := by
      rw [heq', Option.isSome_some]
    have hsame := hdb.managers p' hp' p hp hsome (heq'.trans heq.symm)
    exact eq_of_nodup_map hdb.projectIds hp' hp hsame
  cookies := hgov.cookies

end Database

namespace Store

variable {db : Database}

/-- Reachable tables conform to the schema and are governed. -/
theorem Reachable.conforms_governed (h : Reachable db) : db.Conforms ∧ db.Governed := by
  induction h with
  | fresh => exact ⟨Database.conforms_empty, Database.governed_empty⟩
  | step c _ ih => exact ⟨c.conforms_after ih.1, c.governed_after ih.1 ih.2⟩

theorem Reachable.conforms (h : Reachable db) : db.Conforms := h.conforms_governed.1

/-- **The invariant of the store.** Reachable tables are coherent and legible, and an operation on
them answers with a malformed value only if it has counted an email past 32 bits. -/
theorem reachable_coherent (h : Reachable db) :
    db.Coherent ∧ db.Legible ∧
      ∀ (σ : Type) (w : World σ) (c : Command) (detail : String), w.tables = db →
        (c.call.run w).1 = .error (.malformedValue detail) →
        ∃ projectId day, c = .countEmail projectId day ∧
          ∃ row ∈ (c.after db).quotaUsage, row.isCounterOf projectId day = true ∧
            Limit.bits32 ≤ row.usage ∧ detail = s!"quota usage {row.usage}" := by
  obtain ⟨hdb, hgov⟩ := h.conforms_governed
  refine ⟨hdb.coherent hgov, hdb.legible, ?_⟩
  rintro σ w c detail rfl hmalformed
  exact c.run_malformed hdb hmalformed

/-- A console to be made, with identifiers 1 to 4. -/
def sampleConsole : NewConsoleProject where
  projectId := .ofNat 1
  organizationId := .ofNat 2
  displayName := "Console"
  consoleDomain := "example.com"
  vaultDomain := "vault.example.com"
  owner := ⟨.ofNat 3, "root@example.com", none, true⟩
  signingKey := ⟨.ofNat 4, .ofNat 1, [], [], 10, 0⟩
  createdAt := 0

/-- The invariant holds of a store with a console whose emails have been counted once. -/
theorem coherent_after_countEmail :
    ((Command.countEmail (.ofNat 1) 0).after sampleConsole.tables).Coherent :=
  (reachable_coherent (.step _ (reachable_tables sampleConsole rfl))).1

end Store
end Gatehouse
