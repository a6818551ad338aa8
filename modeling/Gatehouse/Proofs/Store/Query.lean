import Gatehouse.Proofs.Call
import Gatehouse.Proofs.Store.Schema
import Gatehouse.Store.Operation

/-!
# What queries find

On tables that conform to the schema every row can be handed out, so a query fails only where what
it asks for does not exist.
-/

namespace Gatehouse

open Database

namespace Store

variable {σ α : Type} {f : Database → Except StoreError α} {w w' : World σ} {a : α}

/-- A query answers as the tables say, with or without a warning. -/
theorem reads_read (f : Database → Except StoreError α) : Call.Reads (read f : Call σ _ _) f :=
  (Call.reads_query f).telling warnings

/-- A query that succeeds changes nothing at all. -/
theorem run_read_of_ok (h : f w.tables = .ok a) : (read f).run w = (.ok a, w) :=
  Call.run_telling_of_ok (congrArg (·, w) h)

theorem run_read_of_error {e : StoreError} (h : f w.tables = .error e) :
    (read f).run w = (.error e, { w with log := w.log ++ warnings e }) :=
  Call.run_telling_of_error (congrArg (·, w) h)

theorem run_read_eq_ok_iff : (read f).run w = (.ok a, w') ↔ f w.tables = .ok a ∧ w = w' := by
  constructor
  · intro h
    have hread : f w.tables = .ok a := (reads_read f w).1.symm.trans (congrArg Prod.fst h)
    rw [run_read_of_ok hread] at h
    exact ⟨hread, congrArg Prod.snd h⟩
  · rintro ⟨hread, rfl⟩
    exact run_read_of_ok hread

end Store

/-! ## Rows as records -/

theorem Database.readId_text (id : Uuid) : readId id.text = .ok id := by
  rw [readId, Uuid.parse?_text]

theorem SigningKey.record_row (key : SigningKey) : key.row.record = .ok key := by
  rw [SigningKeyRow.record, SigningKey.row]
  simp only [readId_text]
  rfl

/-- A row holds an API key. -/
structure ApiKeyRow.Holds (row : ApiKeyRow) (key : ApiKey) : Prop where
  id : row.id = key.id.text
  projectId : row.projectId = key.projectId.text
  displayName : row.displayName = key.displayName
  authenticationOnly : row.authenticationOnly = key.authenticationOnly
  revoked : row.revoked = key.revoked
  createdAt : row.createdAt = key.createdAt

theorem ApiKeyRow.Holds.record_eq {row : ApiKeyRow} {key : ApiKey} (h : row.Holds key) :
    row.record = .ok key := by
  rw [ApiKeyRow.record, h.id, h.projectId, h.displayName, h.authenticationOnly, h.revoked,
    h.createdAt, readId_text, readId_text]
  rfl

/-- A row holds one API key only. -/
theorem ApiKeyRow.Holds.unique {row : ApiKeyRow} {key key' : ApiKey} (h : row.Holds key)
    (h' : row.Holds key') : key = key' :=
  Except.ok.inj (h.record_eq.symm.trans h'.record_eq)

variable {db : Database}

theorem Database.mem_activeKeyRows {projectId : Uuid} {now : Int} {row : SigningKeyRow} :
    row ∈ db.activeKeyRows projectId now ↔
      row ∈ db.signingKeys ∧ row.projectId = projectId.text ∧ now < row.expiresAt := by
  simp [activeKeyRows]

namespace Database.Conforms

theorem writes_of_mem_ids (hdb : db.Conforms) {text : String}
    (h : text ∈ db.projects.map (·.id)) : Uuid.Writes text := by
  obtain ⟨p, hp, rfl⟩ := List.mem_map.1 h
  exact hdb.projectTexts p hp

theorem exists_row_eq (hdb : db.Conforms) {row : SigningKeyRow} (hrow : row ∈ db.signingKeys) :
    ∃ key : SigningKey, key.row = row := by
  obtain ⟨id, hid⟩ := hdb.keyTexts row hrow
  obtain ⟨projectId, hproject⟩ := hdb.writes_of_mem_ids (hdb.keyParents row hrow)
  refine ⟨⟨id, projectId, row.publicKey, row.privateKeyCiphertext, row.expiresAt,
    row.createdAt⟩, ?_⟩
  rw [SigningKey.row, hid, hproject]

theorem exists_holds (hdb : db.Conforms) {row : ApiKeyRow} (hrow : row ∈ db.apiKeys) :
    ∃ key : ApiKey, row.Holds key := by
  obtain ⟨id, hid⟩ := hdb.apiKeyTexts row hrow
  obtain ⟨projectId, hproject⟩ := hdb.writes_of_mem_ids (hdb.apiKeyParents row hrow)
  exact ⟨⟨id, projectId, row.displayName, row.authenticationOnly, row.revoked, row.createdAt⟩,
    hid.symm, hproject.symm, rfl, rfl, rfl, rfl⟩

/-- Where all tables exist and nobody else holds them, whatever is required is there. -/
theorem require_bind {α : Type} (hdb : db.Conforms) (ts : List Table)
    (f : Unit → Except StoreError α) : (db.require ts >>= f) = f () := by
  have hts : db.require ts = .ok () := by
    rw [require_eq_ok_iff, hdb.complete]
    exact ⟨fun t _ => List.not_mem_nil, allowReading_of_refusal hdb.unlocked⟩
  rw [hts]
  rfl

/-- And they may be written. -/
theorem writable_bind {α : Type} (hdb : db.Conforms) (ts : List Table)
    (f : Unit → Except StoreError α) : (db.writable ts >>= f) = f () := by
  rw [writable, bind_assoc, hdb.require_bind, allow, hdb.unlocked]
  rfl

/-! ## Signing keys -/

/-- The active keys are those in the active rows, in the same order. -/
theorem activeSigningKeys (hdb : db.Conforms) (projectId : Uuid) (now : Int) :
    ∃ keys, db.activeSigningKeys projectId now = .ok keys ∧
      keys.map SigningKey.row = db.activeKeyRows projectId now := by
  have hrows : ∀ row ∈ db.activeKeyRows projectId now, ∃ key : SigningKey, key.row = row :=
    fun row hrow => hdb.exists_row_eq (mem_activeKeyRows.1 hrow).1
  obtain ⟨keys, hkeys⟩ := Traversal.exists_map_eq hrows
  refine ⟨keys, ?_, hkeys⟩
  rw [Database.activeSigningKeys, hdb.require_bind, ← hkeys]
  exact Traversal.mapM_map_eq_ok SigningKey.record_row keys

/-! ## API keys -/

theorem findApiKey_of_mem (hdb : db.Conforms) {row : ApiKeyRow} (hrow : row ∈ db.apiKeys)
    {key : ApiKey} (hkey : row.Holds key) :
    db.findApiKey row.secretDigest = .ok (some key) := by
  have hfind : db.apiKeys.find? (·.secretDigest == row.secretDigest) = some row := by
    refine find?_eq_some_of_unique hrow BEq.rfl fun other hother hdigest => ?_
    exact eq_of_nodup_map hdb.digests hother hrow (beq_iff_eq.1 hdigest)
  rw [Database.findApiKey, hdb.require_bind, hfind, Option.mapM_some, hkey.record_eq]
  rfl

theorem findApiKey_of_not_mem (hdb : db.Conforms) {digest : Bytes}
    (h : ∀ row ∈ db.apiKeys, row.secretDigest ≠ digest) : db.findApiKey digest = .ok none := by
  have hfind : db.apiKeys.find? (·.secretDigest == digest) = none := by
    rw [List.find?_eq_none]
    intro row hrow
    simpa using h row hrow
  rw [Database.findApiKey, hdb.require_bind, hfind]
  rfl

/-! ## Projects -/

theorem backedProject_of_mem (hdb : db.Conforms) {organizationId id : Uuid} {row : ProjectRow}
    (hrow : row ∈ db.projects) (horg : row.organizationId = some organizationId.text)
    (hid : row.id = id.text) : db.backedProject organizationId = .ok id := by
  -- An organization manages one project only, so the first row that is found is this one.
  have hfind : db.projects.find? (·.organizationId == some organizationId.text) = some row := by
    refine find?_eq_some_of_unique hrow (by simpa using horg) fun other hother hmatch => ?_
    have hotherOrg : other.organizationId = some organizationId.text := by
      simpa using hmatch
    have hsome : other.organizationId.isSome = true := by
      rw [hotherOrg, Option.isSome_some]
    have hsame : other.id = row.id :=
      hdb.managers other hother row hrow hsome (hotherOrg.trans horg.symm)
    exact eq_of_nodup_map hdb.projectIds hother hrow hsame
  rw [Database.backedProject, hdb.require_bind, hfind]
  simp only [hid, readId_text]

theorem backedProject_of_not_mem (hdb : db.Conforms) {organizationId : Uuid}
    (h : ∀ row ∈ db.projects, row.organizationId ≠ some organizationId.text) :
    db.backedProject organizationId =
      .error (.notFound s!"project backed by organization {organizationId}") := by
  have hfind : db.projects.find? (·.organizationId == some organizationId.text) = none := by
    rw [List.find?_eq_none]
    intro row hrow
    simpa using h row hrow
  rw [Database.backedProject, hdb.require_bind, hfind]

theorem readId?_eq_ok (hdb : db.Conforms) {row : ProjectRow} (hrow : row ∈ db.projects) :
    ∃ organizationId : Option Uuid, row.organizationId.mapM readId = .ok organizationId ∧
      organizationId.map Uuid.text = row.organizationId := by
  cases horg : row.organizationId with
  | none => exact ⟨none, rfl, rfl⟩
  | some o =>
    obtain ⟨id, rfl⟩ := hdb.managerTexts row hrow o horg
    refine ⟨some id, ?_, rfl⟩
    rw [Option.mapM_some, readId_text]
    rfl

theorem readQuota?_eq_ok (hdb : db.Conforms) {row : ProjectRow} (hrow : row ∈ db.projects) :
    ∃ quota : Option Nat, row.emailQuotaDaily.mapM (readCount "email quota") = .ok quota ∧
      quota.map Int.ofNat = row.emailQuotaDaily := by
  cases hquota : row.emailQuotaDaily with
  | none => exact ⟨none, rfl, rfl⟩
  | some n =>
    have hrange := hdb.quotas row hrow n hquota
    refine ⟨some n.toNat, ?_, ?_⟩
    · rw [Option.mapM_some, readCount, if_pos hrange]
      rfl
    · rw [Option.map_some, Int.ofNat_eq_natCast, Int.toNat_of_nonneg hrange.1]

/-- A project is found by its id. -/
theorem project?_of_mem (hdb : db.Conforms) {row : ProjectRow} (hrow : row ∈ db.projects)
    {id : Uuid} (hid : row.id = id.text) : db.project? id = some row := by
  refine find?_eq_some_of_unique hrow (beq_iff_eq.2 hid) fun other hother hmatch => ?_
  exact eq_of_nodup_map hdb.projectIds hother hrow ((beq_iff_eq.1 hmatch).trans hid.symm)

/-- A project that exists is read as its row says, with all its domains. -/
theorem getProject_of_some (hdb : db.Conforms) {id : Uuid} {row : ProjectRow}
    (h : db.project? id = some row) : ∃ (organizationId : Option Uuid) (quota : Option Nat),
      organizationId.map Uuid.text = row.organizationId ∧
      quota.map Int.ofNat = row.emailQuotaDaily ∧
      db.getProject id = .ok { row with
        id, organizationId, emailQuotaDaily := quota, trustedDomains := db.domainsOf id } := by
  have hid : row.id = id.text := by
    simpa using List.find?_some h
  obtain ⟨organizationId, hread, horg⟩ := hdb.readId?_eq_ok (List.mem_of_find?_eq_some h)
  obtain ⟨quota, hcount, hquota⟩ := hdb.readQuota?_eq_ok (List.mem_of_find?_eq_some h)
  refine ⟨organizationId, quota, horg, hquota, ?_⟩
  rw [Database.getProject, hdb.require_bind, h]
  dsimp only
  rw [hdb.require_bind, ProjectRow.record, hid, readId_text, hread, hcount]
  rfl

theorem getProject_of_none (hdb : db.Conforms) {id : Uuid} (h : db.project? id = none) :
    db.getProject id = .error (.notFound s!"project {id}") := by
  rw [Database.getProject, hdb.require_bind, h]

/-- A project that is read has a row, and is what that row says. -/
theorem exists_row_of_getProject (hdb : db.Conforms) {id : Uuid} {project : Project}
    (h : db.getProject id = .ok project) : ∃ row ∈ db.projects, row.id = id.text ∧
      ∃ (organizationId : Option Uuid) (quota : Option Nat), project = { row with
        id, organizationId, emailQuotaDaily := quota, trustedDomains := db.domainsOf id } := by
  cases hfound : db.project? id with
  | none =>
    rw [hdb.getProject_of_none hfound] at h
    cases h
  | some row =>
    obtain ⟨organizationId, quota, -, -, hread⟩ := hdb.getProject_of_some hfound
    have hid : row.id = id.text := by
      simpa using List.find?_some hfound
    exact ⟨row, List.mem_of_find?_eq_some hfound, hid, organizationId, quota,
      Except.ok.inj (h.symm.trans hread)⟩

end Database.Conforms
end Gatehouse
