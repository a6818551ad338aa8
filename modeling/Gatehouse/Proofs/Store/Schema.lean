import Gatehouse.Proofs.Identifier
import Gatehouse.Proofs.Store.Statement
import Mathlib.Data.List.Nodup

/-!
# What the schema promises

The tables conform to the schema if they all exist and nobody else holds them, if unique columns
hold no value twice, if each row refers to rows that exist, and if ids have their written form.
Every statement keeps this, whatever values it is given.
-/

namespace Gatehouse

/-- A text that writes an identifier. -/
def Uuid.Writes (text : String) : Prop :=
  ∃ id : Uuid, id.text = text

theorem Uuid.writes_text (id : Uuid) : Writes id.text := ⟨id, rfl⟩

/-- The tables conform to the schema. -/
structure Database.Conforms (db : Database) : Prop where
  /-- No table is missing. -/
  complete : db.missing = []
  /-- Nobody else holds the tables. -/
  unlocked : db.refusal = none
  projectIds : (db.projects.map (·.id)).Nodup
  projectTexts : ∀ p ∈ db.projects, Uuid.Writes p.id
  managerTexts : ∀ p ∈ db.projects, ∀ o, p.organizationId = some o → Uuid.Writes o
  /-- An organization manages at most one project. -/
  managers : ∀ p ∈ db.projects, ∀ q ∈ db.projects, p.organizationId.isSome = true →
    p.organizationId = q.organizationId → p.id = q.id
  /-- At most one project is the console. -/
  consoles : ∀ p ∈ db.projects, ∀ q ∈ db.projects, p.isConsole = true → q.isConsole = true →
    p.id = q.id
  /-- No project has a quota of its own that is out of range. -/
  quotas : ∀ p ∈ db.projects, ∀ n, p.emailQuotaDaily = some n → 0 ≤ n ∧ n < Limit.bits32
  domains : db.trustedDomains.Nodup
  domainParents : ∀ d ∈ db.trustedDomains, d.projectId ∈ db.projects.map (·.id)
  organizationIds : (db.organizations.map (·.id)).Nodup
  organizationTexts : ∀ o ∈ db.organizations, Uuid.Writes o.id
  organizationParents : ∀ o ∈ db.organizations, o.projectId ∈ db.projects.map (·.id)
  userIds : (db.users.map (·.id)).Nodup
  userTexts : ∀ u ∈ db.users, Uuid.Writes u.id
  userEmails : (db.users.map fun u => (u.organizationId, u.email)).Nodup
  userParents : ∀ u ∈ db.users, u.organizationId ∈ db.organizations.map (·.id)
  keyIds : (db.signingKeys.map (·.id)).Nodup
  keyTexts : ∀ k ∈ db.signingKeys, Uuid.Writes k.id
  keyParents : ∀ k ∈ db.signingKeys, k.projectId ∈ db.projects.map (·.id)
  apiKeyIds : (db.apiKeys.map (·.id)).Nodup
  apiKeyTexts : ∀ k ∈ db.apiKeys, Uuid.Writes k.id
  digests : (db.apiKeys.map (·.secretDigest)).Nodup
  apiKeyParents : ∀ k ∈ db.apiKeys, k.projectId ∈ db.projects.map (·.id)
  counters : (db.quotaUsage.map fun c => (c.projectId, c.day)).Nodup
  counterParents : ∀ c ∈ db.quotaUsage, c.projectId ∈ db.projects.map (·.id)
  /-- A counter counts at least one email. -/
  counts : ∀ c ∈ db.quotaUsage, 1 ≤ c.usage

namespace Database

variable {db db' : Database}

theorem conforms_empty : empty.Conforms := by
  constructor <;> simp [empty]

/-! ## Unique columns -/

section Unique

variable {α β : Type}

theorem nodup_map_concat {f : α → β} {rows : List α} {row : α} (h : (rows.map f).Nodup)
    (hrow : ∀ r ∈ rows, f r ≠ f row) : ((rows ++ [row]).map f).Nodup := by
  rw [List.map_append, List.map_singleton]
  refine List.Nodup.append h (List.nodup_singleton _) ?_
  intro b hb hb'
  obtain ⟨r, hr, rfl⟩ := List.mem_map.1 hb
  exact hrow r hr (List.mem_singleton.1 hb')

theorem forall_mem_concat {P : α → Prop} {rows : List α} {row : α} (h : ∀ r ∈ rows, P r)
    (hrow : P row) : ∀ r ∈ rows ++ [row], P r := by
  intro r hr
  rcases List.mem_append.1 hr with hr | hr
  · exact h r hr
  · rw [List.mem_singleton.1 hr]
    exact hrow

/-- What holds of each pair of rows holds of each pair once a row is added, if that row gets along
with each other one and with itself. -/
theorem forall_pair_concat {P : α → α → Prop} {rows : List α} {row : α}
    (h : ∀ r ∈ rows, ∀ s ∈ rows, P r s) (hrow : ∀ r ∈ rows, P r row ∧ P row r)
    (hself : P row row) : ∀ r ∈ rows ++ [row], ∀ s ∈ rows ++ [row], P r s := by
  refine forall_mem_concat (fun r hr => ?_) ?_
  · exact forall_mem_concat (h r hr) (hrow r hr).1
  · exact forall_mem_concat (fun s hs => (hrow s hs).2) hself

/-- A column that a change of rows leaves as it is. -/
theorem map_map_of_eq {f : α → β} {g : α → α} (h : ∀ r, f (g r) = f r) (rows : List α) :
    (rows.map g).map f = rows.map f := by
  rw [List.map_map]
  exact List.map_congr_left fun r _ => h r

/-- Rows that agree in a unique column are one row. -/
theorem eq_of_nodup_map {f : α → β} {rows : List α} (h : (rows.map f).Nodup) {r s : α}
    (hr : r ∈ rows) (hs : s ∈ rows) (hf : f r = f s) : r = s :=
  List.inj_on_of_nodup_map h hr hs hf

/-- The row that is found is the only one that is looked for. -/
theorem find?_eq_some_of_unique {p : α → Bool} {rows : List α} {row : α} (hrow : row ∈ rows)
    (hp : p row = true) (h : ∀ r ∈ rows, p r = true → r = row) : rows.find? p = some row := by
  obtain ⟨found, hfound⟩ := Option.isSome_iff_exists.1 (List.find?_isSome.2 ⟨row, hrow, hp⟩)
  rw [hfound, h found (List.mem_of_find?_eq_some hfound) (List.find?_some hfound)]

end Unique

/-! ## Parents -/

/-- References to projects stay good when projects are added. -/
theorem mem_ids_concat {id : String} {rows : List ProjectRow} (row : ProjectRow)
    (h : id ∈ rows.map (·.id)) : id ∈ (rows ++ [row]).map (·.id) := by
  rw [List.map_append]
  exact List.mem_append_left _ h

end Database

namespace Statement

open Database

variable {db db' : Database}

/-! ## Single statements -/

theorem insertProject_conforms {row : ProjectRow} (hid : Uuid.Writes row.id)
    (horg : ∀ o, row.organizationId = some o → Uuid.Writes o)
    (hquota : ∀ n, row.emailQuotaDaily = some n → 0 ≤ n ∧ n < Limit.bits32) (hdb : db.Conforms)
    (h : insertProject row db = .ok db') : db'.Conforms := by
  obtain ⟨-, -, hconsole, hmanager, hnew, rfl⟩ := insertProject_eq_ok_iff.1 h
  refine { hdb with
    projectIds := nodup_map_concat hdb.projectIds hnew
    projectTexts := forall_mem_concat hdb.projectTexts hid
    managerTexts := forall_mem_concat hdb.managerTexts horg
    quotas := forall_mem_concat hdb.quotas hquota
    managers := ?_
    consoles := ?_
    domainParents := fun d hd => mem_ids_concat row (hdb.domainParents d hd)
    organizationParents := fun o ho => mem_ids_concat row (hdb.organizationParents o ho)
    keyParents := fun k hk => mem_ids_concat row (hdb.keyParents k hk)
    apiKeyParents := fun k hk => mem_ids_concat row (hdb.apiKeyParents k hk)
    counterParents := fun c hc => mem_ids_concat row (hdb.counterParents c hc) }
  -- An old row and the new one share neither an organization nor the standing of the console: the
  -- statement checks both before it adds the row.
  · refine forall_pair_concat hdb.managers (fun p hp => ⟨?_, ?_⟩) (fun _ _ => rfl)
    · intro hsome heq
      exact absurd heq (hmanager (heq ▸ hsome) p hp)
    · intro hsome heq
      exact absurd heq.symm (hmanager hsome p hp)
  · refine forall_pair_concat hdb.consoles (fun p hp => ⟨?_, ?_⟩) (fun _ _ => rfl)
    · intro hp' hrow
      rw [hconsole hrow p hp] at hp'
      cases hp'
    · intro hrow hp'
      rw [hconsole hrow p hp] at hp'
      cases hp'

/-- A change of projects that leaves their ids, their standing and their quotas as they are. -/
structure Harmless (change : ProjectRow → ProjectRow) : Prop where
  id : ∀ p, (change p).id = p.id
  organizationId : ∀ p, (change p).organizationId = p.organizationId
  isConsole : ∀ p, (change p).isConsole = p.isConsole
  cookieDomain : ∀ p, (change p).cookieDomain = p.cookieDomain
  emailQuotaDaily : ∀ p, (change p).emailQuotaDaily = p.emailQuotaDaily

/-- A harmless change is still harmless when some rows are passed over. -/
theorem Harmless.ite {change : ProjectRow → ProjectRow} (h : Harmless change)
    (c : ProjectRow → Bool) : Harmless fun p => if c p then change p else p where
  id p := by split <;> simp [h.id]
  organizationId p := by split <;> simp [h.organizationId]
  isConsole p := by split <;> simp [h.isConsole]
  cookieDomain p := by split <;> simp [h.cookieDomain]
  emailQuotaDaily p := by split <;> simp [h.emailQuotaDaily]

theorem Harmless.conforms {change : ProjectRow → ProjectRow} (h : Harmless change)
    (hdb : db.Conforms) : ({ db with projects := db.projects.map change } : Database).Conforms := by
  have hids : (db.projects.map change).map (·.id) = db.projects.map (·.id) :=
    map_map_of_eq h.id db.projects
  refine { hdb with
    projectIds := hids ▸ hdb.projectIds
    projectTexts := ?_
    managerTexts := ?_
    managers := ?_
    consoles := ?_
    quotas := ?_
    domainParents := hids ▸ hdb.domainParents
    organizationParents := hids ▸ hdb.organizationParents
    keyParents := hids ▸ hdb.keyParents
    apiKeyParents := hids ▸ hdb.apiKeyParents
    counterParents := hids ▸ hdb.counterParents }
  all_goals simp only [List.forall_mem_map, h.id, h.organizationId, h.isConsole, h.emailQuotaDaily]
  · exact hdb.projectTexts
  · exact hdb.managerTexts
  · exact hdb.managers
  · exact hdb.consoles
  · exact hdb.quotas

theorem updateProject_conforms {id : Uuid} {change : ProjectRow → ProjectRow} (h : Harmless change)
    (hdb : db.Conforms) (hstep : updateProject id change db = .ok db') : db'.Conforms := by
  obtain ⟨-, -, rfl⟩ := updateProject_eq_ok_iff.1 hstep
  exact (h.ite _).conforms hdb

theorem linkOrganization_conforms {projectId organizationId : String}
    (horg : Uuid.Writes organizationId) (hdb : db.Conforms)
    (h : linkOrganization projectId organizationId db = .ok db') : db'.Conforms := by
  obtain ⟨-, -, hfree, rfl⟩ := linkOrganization_eq_ok_iff.1 h
  set link : ProjectRow → ProjectRow := fun p =>
    if p.id == projectId then { p with organizationId := some organizationId } else p with hlink
  have hself : ∀ p : ProjectRow, p.id = projectId →
      link p = { p with organizationId := some organizationId } := by
    intro p hp
    rw [hlink]
    exact if_pos (beq_iff_eq.2 hp)
  have hother : ∀ p : ProjectRow, p.id ≠ projectId → link p = p := by
    intro p hp
    rw [hlink]
    exact if_neg (mt beq_iff_eq.1 hp)
  -- Only one column is written, and every other one is as it was.
  have hcolumn : ∀ {α : Type} {f : ProjectRow → α},
      (∀ p, f { p with organizationId := some organizationId } = f p) → ∀ p, f (link p) = f p := by
    intro α f hf p
    by_cases hp : p.id = projectId
    · rw [hself p hp, hf]
    · rw [hother p hp]
  have hid : ∀ p, (link p).id = p.id := hcolumn fun _ => rfl
  have hconsole : ∀ p, (link p).isConsole = p.isConsole := hcolumn fun _ => rfl
  have hquota : ∀ p, (link p).emailQuotaDaily = p.emailQuotaDaily := hcolumn fun _ => rfl
  have hids : (db.projects.map link).map (·.id) = db.projects.map (·.id) :=
    map_map_of_eq hid db.projects
  refine { hdb with
    projectIds := hids ▸ hdb.projectIds
    projectTexts := ?_
    managerTexts := ?_
    managers := ?_
    consoles := ?_
    quotas := ?_
    domainParents := hids ▸ hdb.domainParents
    organizationParents := hids ▸ hdb.organizationParents
    keyParents := hids ▸ hdb.keyParents
    apiKeyParents := hids ▸ hdb.apiKeyParents
    counterParents := hids ▸ hdb.counterParents }
  all_goals simp only [List.forall_mem_map, hid, hconsole, hquota]
  · exact hdb.projectTexts
  · intro p hp o ho
    by_cases hpid : p.id = projectId
    · rw [hself p hpid, Option.some.injEq] at ho
      exact ho ▸ horg
    · rw [hother p hpid] at ho
      exact hdb.managerTexts p hp o ho
  · intro p hp q hq hsome heq
    -- The organization was free, so a row that is linked to it shares it with no other row.
    by_cases hpid : p.id = projectId <;> by_cases hqid : q.id = projectId
    · rw [hpid, hqid]
    · rw [hself p hpid, hother q hqid] at heq
      exact absurd heq.symm (hfree ⟨p, hp, hpid⟩ q hq hqid)
    · rw [hother p hpid, hself q hqid] at heq
      exact absurd heq (hfree ⟨q, hq, hqid⟩ p hp hpid)
    · rw [hother p hpid] at hsome heq
      rw [hother q hqid] at heq
      exact hdb.managers p hp q hq hsome heq
  · exact hdb.consoles
  · exact hdb.quotas

theorem insertTrustedDomain_conforms {row : TrustedDomainRow} (hdb : db.Conforms)
    (h : insertTrustedDomain row db = .ok db') : db'.Conforms := by
  obtain ⟨-, -, -, hparent, rfl⟩ := insertTrustedDomain_eq_ok_iff.1 h
  by_cases hrow : row ∈ db.trustedDomains
  · rw [addedDomains, if_pos hrow, List.append_nil]
    exact hdb
  · obtain ⟨p, hp, hid⟩ := hparent.resolve_left hrow
    have hdomains := nodup_map_concat (f := id) (by simpa using hdb.domains)
      fun r hr (heq : r = row) => hrow (heq ▸ hr)
    rw [addedDomains, if_neg hrow]
    exact { hdb with
      domains := by simpa using hdomains
      domainParents := forall_mem_concat hdb.domainParents (hid ▸ List.mem_map_of_mem hp) }

theorem insertOrganization_conforms {row : OrganizationRow} (hid : Uuid.Writes row.id)
    (hdb : db.Conforms) (h : insertOrganization row db = .ok db') : db'.Conforms := by
  obtain ⟨-, -, -, hnew, ⟨p, hp, hparent⟩, rfl⟩ := insertOrganization_eq_ok_iff.1 h
  exact { hdb with
    organizationIds := nodup_map_concat hdb.organizationIds hnew
    organizationTexts := forall_mem_concat hdb.organizationTexts hid
    organizationParents := forall_mem_concat hdb.organizationParents
      (hparent ▸ List.mem_map_of_mem hp)
    userParents := fun u hu => by
      rw [List.map_append]
      exact List.mem_append_left _ (hdb.userParents u hu) }

theorem insertUser_conforms {row : UserRow} (hid : Uuid.Writes row.id) (hdb : db.Conforms)
    (h : insertUser row db = .ok db') : db'.Conforms := by
  obtain ⟨-, -, -, hemail, hnew, ⟨o, ho, hparent⟩, rfl⟩ := insertUser_eq_ok_iff.1 h
  exact { hdb with
    userIds := nodup_map_concat hdb.userIds hnew
    userTexts := forall_mem_concat hdb.userTexts hid
    userEmails := nodup_map_concat hdb.userEmails fun u hu heq => hemail u hu (Prod.mk.inj heq)
    userParents := forall_mem_concat hdb.userParents (hparent ▸ List.mem_map_of_mem ho) }

theorem insertSigningKey_conforms {row : SigningKeyRow} (hid : Uuid.Writes row.id)
    (hdb : db.Conforms) (h : insertSigningKey row db = .ok db') : db'.Conforms := by
  obtain ⟨-, -, -, hnew, ⟨p, hp, hparent⟩, rfl⟩ := insertSigningKey_eq_ok_iff.1 h
  exact { hdb with
    keyIds := nodup_map_concat hdb.keyIds hnew
    keyTexts := forall_mem_concat hdb.keyTexts hid
    keyParents := forall_mem_concat hdb.keyParents (hparent ▸ List.mem_map_of_mem hp) }

theorem insertApiKey_conforms {row : ApiKeyRow} (hid : Uuid.Writes row.id) (hdb : db.Conforms)
    (h : insertApiKey row db = .ok db') : db'.Conforms := by
  obtain ⟨-, -, -, hdigest, hnew, ⟨p, hp, hparent⟩, rfl⟩ := insertApiKey_eq_ok_iff.1 h
  exact { hdb with
    apiKeyIds := nodup_map_concat hdb.apiKeyIds hnew
    apiKeyTexts := forall_mem_concat hdb.apiKeyTexts hid
    digests := nodup_map_concat hdb.digests hdigest
    apiKeyParents := forall_mem_concat hdb.apiKeyParents (hparent ▸ List.mem_map_of_mem hp) }

/-- A change of API keys that touches neither ids nor parents nor digests. -/
theorem conforms_map_apiKeys {change : ApiKeyRow → ApiKeyRow} (hid : ∀ k, (change k).id = k.id)
    (hparent : ∀ k, (change k).projectId = k.projectId)
    (hdigest : ∀ k, (change k).secretDigest = k.secretDigest) (hdb : db.Conforms) :
    ({ db with apiKeys := db.apiKeys.map change } : Database).Conforms := by
  refine { hdb with apiKeyIds := ?_, apiKeyTexts := ?_, digests := ?_, apiKeyParents := ?_ }
  · exact map_map_of_eq hid db.apiKeys ▸ hdb.apiKeyIds
  · simp only [List.forall_mem_map, hid]
    exact hdb.apiKeyTexts
  · exact map_map_of_eq hdigest db.apiKeys ▸ hdb.digests
  · simp only [List.forall_mem_map, hparent]
    exact hdb.apiKeyParents

theorem revokeApiKey_conforms {projectId id : Uuid} (hdb : db.Conforms)
    (h : revokeApiKey projectId id db = .ok db') : db'.Conforms := by
  obtain ⟨-, -, -, rfl⟩ := revokeApiKey_eq_ok_iff.1 h
  refine conforms_map_apiKeys (fun k => ?_) (fun k => ?_) (fun k => ?_) hdb <;> split <;> rfl

/-- A change of counters that touches neither project nor day and takes no email back. -/
theorem conforms_map_quotaUsage {change : UsageRow → UsageRow}
    (hkey : ∀ c, ((change c).projectId, (change c).day) = (c.projectId, c.day))
    (hcount : ∀ c, 1 ≤ c.usage → 1 ≤ (change c).usage) (hdb : db.Conforms) :
    ({ db with quotaUsage := db.quotaUsage.map change } : Database).Conforms := by
  refine { hdb with counters := ?_, counterParents := ?_, counts := ?_ }
  · have hkeys := map_map_of_eq (f := fun c : UsageRow => (c.projectId, c.day)) hkey db.quotaUsage
    exact hkeys ▸ hdb.counters
  · simp only [List.forall_mem_map, (Prod.mk.inj (hkey _)).1]
    exact hdb.counterParents
  · simp only [List.forall_mem_map]
    exact fun c hc => hcount c (hdb.counts c hc)

theorem one_le_usage_next {c : UsageRow} (h : 1 ≤ c.usage) : 1 ≤ c.next.usage := by
  have hmax : 1 ≤ UsageRow.maxUsage + 1 := by decide
  rw [UsageRow.next]
  exact Int.le_min.2 ⟨by omega, hmax⟩

theorem countEmail_conforms {projectId : Uuid} {day : Int} (hdb : db.Conforms)
    (h : countEmail projectId day db = .ok db') : db'.Conforms := by
  obtain ⟨-, -, -, ⟨-, rfl⟩ | ⟨hnew, ⟨p, hp, hparent⟩, rfl⟩⟩ := countEmail_eq_ok_iff.1 h
  · refine conforms_map_quotaUsage (fun c => ?_) (fun c hc => ?_) hdb
    · split <;> rfl
    · split
      · exact one_le_usage_next hc
      · exact hc
  · -- A new counter is added only where there was none for this project and day.
    have hother : ∀ c ∈ db.quotaUsage, (c.projectId, c.day) ≠ (projectId.text, day) := by
      intro c hc heq
      have hcounter : c.isCounterOf projectId day = true := by
        simpa [UsageRow.isCounterOf] using heq
      rw [hnew c hc] at hcounter
      cases hcounter
    refine { hdb with counters := ?_, counterParents := ?_, counts := ?_ }
    · exact nodup_map_concat hdb.counters hother
    · exact forall_mem_concat hdb.counterParents (hparent ▸ List.mem_map_of_mem hp)
    · exact forall_mem_concat hdb.counts (Int.le_refl 1)

end Statement
end Gatehouse
