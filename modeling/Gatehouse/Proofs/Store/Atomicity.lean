import Gatehouse.Proofs.Store.Invariant

/-!
# Operations are all or nothing

An operation that fails leaves every table as it was, whichever of its statements has failed. One
that succeeds adds its own rows or changes one row, and every other row stays. The counting of
emails alone may fail after it has been kept, when the new count cannot be read.
-/

namespace Gatehouse

/-! ## Differences between tables -/

/-- One row stands in the place of another, and all others are where they were. -/
def ReplacesOne {α : Type} (rows rows' : List α) (row row' : α) : Prop :=
  ∃ before after, rows = before ++ row :: after ∧ rows' = before ++ row' :: after

/-- A change of the rows that a condition picks out replaces one row if the condition picks out one
row only. -/
theorem ReplacesOne.of_map {α : Type} {rows : List α} {row : α} {picks : α → Bool} {change : α → α}
    (hrows : rows.Nodup) (hrow : row ∈ rows) (hpicks : picks row = true)
    (hunique : ∀ r ∈ rows, picks r = true → r = row) :
    ReplacesOne rows (rows.map fun r => if picks r then change r else r) row (change row) := by
  obtain ⟨before, after, rfl⟩ := List.append_of_mem hrow
  have hnodup : (row :: (before ++ after)).Nodup := by
    exact (List.perm_middle.nodup_iff).1 hrows
  have hother : ∀ r ∈ before ++ after, (if picks r then change r else r) = r := by
    intro r hr
    have hne : r ≠ row := fun heq => (List.nodup_cons.1 hnodup).1 (heq ▸ hr)
    have hmem : r ∈ before ++ row :: after := by
      rcases List.mem_append.1 hr with hr | hr
      · exact List.mem_append_left _ hr
      · exact List.mem_append_right _ (List.mem_cons_of_mem _ hr)
    exact if_neg fun hp => hne (hunique r hmem hp)
  have hside : ∀ rs : List α, (∀ r ∈ rs, r ∈ before ++ after) →
      (rs.map fun r => if picks r then change r else r) = rs := by
    intro rs hrs
    exact (List.map_congr_left fun r hr => hother r (hrs r hr)).trans (List.map_id _)
  refine ⟨before, after, rfl, ?_⟩
  rw [List.map_append, List.map_cons, if_pos hpicks,
    hside before fun r hr => List.mem_append_left _ hr,
    hside after fun r hr => List.mem_append_right _ hr]

namespace Database

/-- The tables with the rows of others behind their own. -/
def adding (db new : Database) : Database where
  projects := db.projects ++ new.projects
  trustedDomains := db.trustedDomains ++ new.trustedDomains
  organizations := db.organizations ++ new.organizations
  users := db.users ++ new.users
  signingKeys := db.signingKeys ++ new.signingKeys
  apiKeys := db.apiKeys ++ new.apiKeys
  quotaUsage := db.quotaUsage ++ new.quotaUsage
  missing := db.missing
  refusal := db.refusal

variable {db : Database}

theorem empty_adding {new : Database} (h : new.missing = []) (hopen : new.refusal = none) :
    empty.adding new = new := by
  obtain ⟨projects, domains, organizations, users, keys, apiKeys, usage, missing, refusal⟩ := new
  obtain rfl : missing = [] := h
  obtain rfl : refusal = none := hopen
  rfl

/-- A counter that is missing, or that has outgrown its type, is no missing entry. -/
theorem usageOn_ne_notFound (projectId : Uuid) (day : Int) (db : Database) (detail : String) :
    db.usageOn projectId day ≠ .error (.notFound detail) := by
  intro h
  rw [usageOn] at h
  cases hfind : db.quotaUsage.find? (·.isCounterOf projectId day) with
  | none =>
    rw [hfind] at h
    cases h
  | some row =>
    rw [hfind] at h
    dsimp only at h
    split at h
    · cases h
    · rw [readCount] at h
      split at h
      · cases h
      · cases h

end Database

namespace Store

open Database

variable {σ : Type} {db db' : Database}

namespace Command

/-- How the tables differ before and after an operation that succeeds. -/
def Delta : Command → Database → Database → Prop
  | createConsoleProject p, db, db' =>
    db' = db.adding {
      projects := [p.linkedRow], trustedDomains := p.domainRows,
      organizations := [p.organizationRow], users := [p.ownerRow],
      signingKeys := [p.signingKey.row] }
  | createProject p, db, db' =>
    db' = db.adding {
      projects := [p.projectRow], trustedDomains := [p.domainRow],
      organizations := [p.organizationRow], signingKeys := [p.signingKey.row] }
  | updateProject u, db, db' => ∃ row rows, row.id = u.projectId.text ∧
    ReplacesOne db.projects rows row (u.change row) ∧ db' = { db with projects := rows }
  | createSigningKey key, db, db' => db' = db.adding { signingKeys := [key.row] }
  | createApiKey key, db, db' => db' = db.adding { apiKeys := [key.row] }
  | revokeApiKey projectId id, db, db' => ∃ row rows, row.isKeyOf projectId id = true ∧
    ReplacesOne db.apiKeys rows row { row with revoked := true } ∧ db' = { db with apiKeys := rows }
  | countEmail projectId day, db, db' =>
    (∃ row rows, row.isCounterOf projectId day = true ∧
      ReplacesOne db.quotaUsage rows row row.next ∧ db' = { db with quotaUsage := rows }) ∨
    db' = db.adding { quotaUsage := [⟨projectId.text, day, 1⟩] }

/-! ## What an operation that takes place changes -/

theorem adding_createProject {p : NewProject} (hdb : db.Conforms) (hp : p.Fits db) :
    Delta (.createProject p) db (p.tables db) := by
  -- The project is new, so no domain can have been trusted for it before.
  have hnew : p.domainRow ∉ db.trustedDomains := by
    intro hmem
    obtain ⟨row, hrow, hid⟩ := List.mem_map.1 (hdb.domainParents _ hmem)
    exact hp.project row hrow hid
  rw [Delta, NewProject.tables, Statement.addedDomains, if_neg hnew]
  simp only [adding, List.append_nil]

theorem replacesOne_projects {id : Uuid} {change : ProjectRow → ProjectRow} (hdb : db.Conforms)
    {row : ProjectRow} (hrow : row ∈ db.projects) (hid : row.id = id.text) :
    ReplacesOne db.projects (db.projects.map fun p => if p.id == id.text then change p else p)
      row (change row) := by
  refine .of_map (List.Nodup.of_map _ hdb.projectIds) hrow (beq_iff_eq.2 hid) fun p hp hpid => ?_
  have hsame : p.id = row.id := (beq_iff_eq.1 hpid).trans hid.symm
  exact eq_of_nodup_map hdb.projectIds hp hrow hsame

theorem replacesOne_apiKeys {projectId id : Uuid} {change : ApiKeyRow → ApiKeyRow}
    (hdb : db.Conforms) {row : ApiKeyRow} (hrow : row ∈ db.apiKeys)
    (hkey : row.isKeyOf projectId id = true) :
    ReplacesOne db.apiKeys (db.apiKeys.map fun k => if k.isKeyOf projectId id then change k else k)
      row (change row) := by
  refine .of_map (List.Nodup.of_map _ hdb.apiKeyIds) hrow hkey fun k hk hkey' => ?_
  simp only [ApiKeyRow.isKeyOf, Bool.and_eq_true, beq_iff_eq] at hkey hkey'
  exact eq_of_nodup_map hdb.apiKeyIds hk hrow (hkey'.2.trans hkey.2.symm)

theorem replacesOne_quotaUsage {projectId : Uuid} {day : Int} {change : UsageRow → UsageRow}
    (hdb : db.Conforms) {row : UsageRow} (hrow : row ∈ db.quotaUsage)
    (hcounter : row.isCounterOf projectId day = true) :
    ReplacesOne db.quotaUsage
      (db.quotaUsage.map fun c => if c.isCounterOf projectId day then change c else c)
      row (change row) := by
  refine .of_map (List.Nodup.of_map _ hdb.counters) hrow hcounter fun c hc hcounter' => ?_
  simp only [UsageRow.isCounterOf, Bool.and_eq_true, beq_iff_eq] at hcounter hcounter'
  have hsame : (c.projectId, c.day) = (row.projectId, row.day) := by
    rw [hcounter'.1, hcounter'.2, hcounter.1, hcounter.2]
  exact eq_of_nodup_map hdb.counters hc hrow hsame

/-- An operation that takes place makes the difference that is its own. -/
theorem delta_effect (c : Command) (hdb : db.Conforms) (h : c.Fits db) :
    c.Delta db (c.effect db) := by
  cases c with
  | createConsoleProject p =>
    obtain ⟨rfl, -⟩ := h
    exact (empty_adding rfl rfl).symm
  | createProject p => exact adding_createProject hdb h
  | updateProject u =>
    obtain ⟨row, hrow, hid⟩ := h
    exact ⟨row, _, hid, replacesOne_projects hdb hrow hid, rfl⟩
  | createSigningKey key => simp only [Delta, effect, adding, List.append_nil]
  | createApiKey key => simp only [Delta, effect, adding, List.append_nil]
  | revokeApiKey projectId id =>
    obtain ⟨row, hrow, hkey⟩ := h
    exact ⟨row, _, hkey, replacesOne_apiKeys hdb hrow hkey, rfl⟩
  | countEmail projectId day =>
    rw [effect, countedUsage]
    by_cases hany : db.quotaUsage.any (·.isCounterOf projectId day) = true
    · obtain ⟨row, hrow, hcounter⟩ := List.any_eq_true.1 hany
      rw [if_pos hany]
      exact .inl ⟨row, _, hcounter, replacesOne_quotaUsage hdb hrow hcounter, rfl⟩
    · rw [if_neg hany]
      right
      simp only [adding, List.append_nil]

/-! ## Failures -/

/-- One of an operation's statements fails, on the tables that those before it have left. -/
def FailsAt (c : Command) (db : Database) (e : StoreError) : Prop :=
  ∃ done failed rest mid, c.statements = done ++ failed :: rest ∧
    Statement.all done db = .ok mid ∧ failed mid = .error e

/-- Once its statements have been carried out, an operation other than the counting of emails
succeeds: a project that has been updated can be read back. -/
theorem answer_eq_ok (c : Command) (hdb : db.Conforms) (h : Statement.all c.statements db = .ok db')
    (hc : ∀ projectId day, c ≠ .countEmail projectId day) : c.answer db' = .ok () := by
  cases c with
  | updateProject u =>
    obtain ⟨⟨row, hrow, hid⟩, rfl⟩ := (statements_eq_ok_iff _ hdb).1 h
    have hconforms : (effect (.updateProject u) db).Conforms :=
      Statement.all_preserves (statements_conform _) hdb h
    -- The row that was updated is still the row of this project.
    have hsome : ((effect (.updateProject u) db).project? u.projectId).isSome = true := by
      rw [project?, List.find?_isSome]
      refine ⟨u.change row, List.mem_map.2 ⟨row, hrow, ?_⟩, ?_⟩
      · exact if_pos (beq_iff_eq.2 hid)
      · exact beq_iff_eq.2 hid
    obtain ⟨row', hrow'⟩ := Option.isSome_iff_exists.1 hsome
    obtain ⟨_, _, -, -, hread⟩ := hconforms.getProject_of_some hrow'
    change (Database.getProject u.projectId _ >>= fun _ => .ok ()) = .ok ()
    rw [hread]
    rfl
  | countEmail projectId day => exact absurd rfl (hc projectId day)
  | _ => rfl

theorem delta_of_run_eq_ok (c : Command) {w : World σ} (hdb : w.tables.Conforms)
    (h : (c.call.run w).1 = .ok ()) : c.Delta w.tables (c.call.run w).2.tables := by
  obtain ⟨houtcome, htables⟩ := c.run_call w
  rw [h] at houtcome
  cases hall : Statement.all c.statements w.tables with
  | error e =>
    rw [hall] at houtcome
    cases houtcome
  | ok db' =>
    obtain ⟨hfits, rfl⟩ := (c.statements_eq_ok_iff hdb).1 hall
    rw [htables, afterAll_of_ok hall]
    exact c.delta_effect hdb hfits

/-- A failure of an operation is that of one of its statements, and nothing has been changed. The
counting of emails may also fail when it reads what it has written. -/
theorem failsAt_of_run_eq_error (c : Command) {w : World σ} (hdb : w.tables.Conforms)
    {e : StoreError} (h : (c.call.run w).1 = .error e)
    (hanswer : ∀ db', c.answer db' = .error e → ∀ projectId day, c ≠ .countEmail projectId day) :
    c.FailsAt w.tables e ∧ (c.call.run w).2.tables = w.tables := by
  obtain ⟨houtcome, htables⟩ := c.run_call w
  rw [h] at houtcome
  cases hall : Statement.all c.statements w.tables with
  | error e' =>
    rw [hall] at houtcome
    obtain rfl : e = e' := Except.error.inj houtcome
    rw [htables, afterAll_of_error hall]
    exact ⟨Statement.all_eq_error_iff.1 hall, rfl⟩
  | ok db' =>
    rw [hall] at houtcome
    have hread : c.answer db' = .error e := houtcome.symm
    have hok := c.answer_eq_ok hdb hall (hanswer db' hread)
    rw [hok] at hread
    cases hread

end Command

/-! ## Operations that only read -/

/-- An operation that only reads the store, with its arguments. -/
inductive Request where
  | project (id : Uuid)
  | activeSigningKeys (projectId : Uuid) (now : Int)
  | apiKey (digest : Bytes)
  | backedProject (organizationId : Uuid)

/-- The call of an operation that only reads, without what it hands out. -/
def Request.call : Request → Call σ StoreError Unit
  | project id => do let _ ← Store.getProject id
  | activeSigningKeys projectId now => do let _ ← Store.activeSigningKeys projectId now
  | apiKey digest => do let _ ← Store.findApiKey digest
  | backedProject organizationId => do let _ ← Store.backedProject organizationId

theorem Request.keeps_call (r : Request) : Call.Keeps (r.call : Call σ StoreError Unit) := by
  have hread : ∀ {α : Type} (f : Database → Except StoreError α),
      Call.Keeps (do let _ ← (Store.read f : Call σ StoreError α)) :=
    fun f => ((Store.reads_read f).bind fun _ => Call.reads_pure ()).keeps
  cases r with
  | project id => exact hread _
  | activeSigningKeys projectId now => exact hread _
  | apiKey digest => exact hread _
  | backedProject organizationId => exact hread _

/-! ## All or nothing -/

/-- **Operations are all or nothing.** On reachable tables, an operation that succeeds makes the
difference that is its own, and one that fails makes none: the failure is that of one of its
statements, and what those before it wrote is gone. The counting of emails is excepted, but makes no
difference either when it fails for want of an entry. The operations that read make none at all. -/
theorem all_or_nothing {w : World σ} (hw : Reachable w.tables) :
    (∀ c : Command, (c.call.run w).1 = .ok () → c.Delta w.tables (c.call.run w).2.tables) ∧
      (∀ (c : Command) (e : StoreError), (∀ projectId day, c ≠ .countEmail projectId day) →
        (c.call.run w).1 = .error e →
          c.FailsAt w.tables e ∧ (c.call.run w).2.tables = w.tables) ∧
      (∀ (c : Command) (detail : String), (c.call.run w).1 = .error (.notFound detail) →
        (c.call.run w).2.tables = w.tables) ∧
      ∀ r : Request, ((r.call : Call σ StoreError Unit).run w).2.tables = w.tables := by
  have hdb := hw.conforms
  refine ⟨?_, ?_, ?_, ?_⟩
  · exact fun c h => c.delta_of_run_eq_ok hdb h
  · exact fun c e hc h => c.failsAt_of_run_eq_error hdb h fun _ _ => hc
  · intro c detail h
    refine (c.failsAt_of_run_eq_error hdb h ?_).2
    -- A counter that cannot be read is no missing entry.
    rintro db' hanswer projectId day rfl
    have hread : (db'.usageOn projectId day >>= fun _ => .ok ()) = .error (.notFound detail) :=
      hanswer
    cases husage : db'.usageOn projectId day with
    | error e =>
      rw [husage] at hread
      obtain rfl : e = .notFound detail := Except.error.inj hread
      exact usageOn_ne_notFound projectId day db' detail husage
    | ok n =>
      rw [husage] at hread
      cases hread
  · exact fun r => r.keeps_call w

/-- Where a console exists, another one is refused by the first statement of its bootstrap and
changes nothing. -/
theorem all_or_nothing_second_console :
    (Command.createConsoleProject sampleConsole).FailsAt sampleConsole.tables
        (.preconditionFailed "project count is not zero: 1") ∧
      ((Command.createConsoleProject sampleConsole).call.run
        (World.mk sampleConsole.tables () [])).2.tables = sampleConsole.tables :=
  (all_or_nothing (w := World.mk sampleConsole.tables () [])
    (reachable_tables sampleConsole rfl)).2.1 (.createConsoleProject sampleConsole) _ nofun rfl

end Store
end Gatehouse
