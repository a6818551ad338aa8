import Gatehouse.Proofs.Store.Statement
import Gatehouse.Store.Query

/-!
# Tables without their secrets

Some columns hold what comes of secrets: the hashes of passwords, both halves of signing keys, and
the digests of API keys. Erasing them leaves the rows with all their other columns. Statements that
make projects and signing keys carry on alike whatever those columns hold: they fail in the same
way, or lead to tables that are the same once erased. An API key also depends on whether its digest
is there already.
-/

namespace Gatehouse

/-! ## Erased rows and records -/

/-- A user without the hash of its password. -/
def UserRow.erased (row : UserRow) : UserRow :=
  { row with passwordHash := none }

/-- A signing key without its halves. -/
def SigningKeyRow.erased (row : SigningKeyRow) : SigningKeyRow :=
  { row with publicKey := [], privateKeyCiphertext := [] }

namespace SigningKeyRow

variable (row : SigningKeyRow)

@[simp] theorem id_erased : row.erased.id = row.id := rfl

@[simp] theorem projectId_erased : row.erased.projectId = row.projectId := rfl

@[simp] theorem expiresAt_erased : row.erased.expiresAt = row.expiresAt := rfl

end SigningKeyRow

/-- An API key without the digest of its secret. -/
def ApiKeyRow.erased (row : ApiKeyRow) : ApiKeyRow :=
  { row with secretDigest := [] }

/-- A signing key without its halves. -/
def SigningKey.erased (key : SigningKey) : SigningKey :=
  { key with publicKey := [], privateKeyCiphertext := [] }

/-- A console without the hash of the owner's password and the halves of its key. -/
def NewConsoleProject.erased (p : NewConsoleProject) : NewConsoleProject :=
  { p with owner := { p.owner with passwordHash := none }, signingKey := p.signingKey.erased }

/-- A tenant without the halves of its key. -/
def NewProject.erased (p : NewProject) : NewProject :=
  { p with signingKey := p.signingKey.erased }

namespace Database

/-- Tables without what comes of secrets. -/
def erased (db : Database) : Database :=
  { db with
    users := db.users.map UserRow.erased
    signingKeys := db.signingKeys.map SigningKeyRow.erased
    apiKeys := db.apiKeys.map ApiKeyRow.erased }

variable (db : Database)

@[simp] theorem users_erased : db.erased.users = db.users.map UserRow.erased := rfl

@[simp] theorem signingKeys_erased :
    db.erased.signingKeys = db.signingKeys.map SigningKeyRow.erased := rfl

@[simp] theorem apiKeys_erased : db.erased.apiKeys = db.apiKeys.map ApiKeyRow.erased := rfl

@[simp] theorem missing_erased : db.erased.missing = db.missing := rfl

@[simp] theorem allow_erased : db.erased.allow = db.allow := rfl

@[simp] theorem allowReading_erased : db.erased.allowReading = db.allowReading := rfl

@[simp] theorem require_erased (ts : List Table) : db.erased.require ts = db.require ts := by
  induction ts with
  | nil => rw [require, require, allowReading_erased]
  | cons t ts ih => rw [require, require, ih, missing_erased]

@[simp] theorem writable_erased (ts : List Table) : db.erased.writable ts = db.writable ts := by
  rw [writable, writable, require_erased, allow_erased]

theorem erased_insertUser (row : UserRow) : ({ db with users := db.users ++ [row] }).erased =
    { db.erased with users := db.erased.users ++ [row.erased] } := by
  rw [erased, List.map_append]
  rfl

theorem erased_insertSigningKey (row : SigningKeyRow) :
    ({ db with signingKeys := db.signingKeys ++ [row] }).erased =
      { db.erased with signingKeys := db.erased.signingKeys ++ [row.erased] } := by
  rw [erased, List.map_append]
  rfl

theorem erased_insertApiKey (row : ApiKeyRow) :
    ({ db with apiKeys := db.apiKeys ++ [row] }).erased =
      { db.erased with apiKeys := db.erased.apiKeys ++ [row.erased] } := by
  rw [erased, List.map_append]
  rfl

end Database

/-! ## Statements on erased tables -/

namespace Statement

/-- A statement does to tables what another one does to the tables once erased. -/
def Erases (s t : Statement) : Prop :=
  ∀ db, (s db).map Database.erased = t db.erased

/-- Requiring tables comes to the same before and after erasing. -/
theorem map_require_bind (db : Database) (ts : List Table)
    (f : Unit → Except StoreError Database) :
    (db.require ts >>= f).map Database.erased =
      db.erased.require ts >>= fun _ => (f ()).map Database.erased := by
  rw [Database.require_erased]
  rcases db.require ts with e | ⟨⟩
  · rfl
  · rfl

/-- Being let write tables comes to the same before and after erasing. -/
theorem map_writable_bind (db : Database) (ts : List Table)
    (f : Unit → Except StoreError Database) :
    (db.writable ts >>= f).map Database.erased =
      db.erased.writable ts >>= fun _ => (f ()).map Database.erased := by
  rw [Database.writable_erased]
  rcases db.writable ts with e | ⟨⟩
  · rfl
  · rfl

theorem map_erased_ok (db : Database) :
    (.ok db : Except StoreError Database).map Database.erased = .ok db.erased := rfl

theorem Erases.all {ss ts : List Statement} (h : List.Forall₂ Erases ss ts) :
    Erases (all ss) (all ts) := by
  intro db
  induction h generalizing db with
  | nil => rfl
  | @cons s t ss ts hs _ ih =>
    rw [Statement.all, Statement.all, ← hs db]
    rcases s db with e | db'
    · rfl
    · exact ih db'

theorem erases_insertProject (row : ProjectRow) :
    Erases (insertProject row) (insertProject row) := by
  intro db
  rw [insertProject, map_writable_bind]
  simp only [apply_ite (Except.map Database.erased)]
  rfl

theorem erases_insertTrustedDomain (row : TrustedDomainRow) :
    Erases (insertTrustedDomain row) (insertTrustedDomain row) := by
  intro db
  rw [insertTrustedDomain, map_writable_bind]
  simp only [apply_ite (Except.map Database.erased)]
  rfl

theorem erases_insertOrganization (row : OrganizationRow) :
    Erases (insertOrganization row) (insertOrganization row) := by
  intro db
  rw [insertOrganization, map_writable_bind]
  simp only [apply_ite (Except.map Database.erased)]
  rfl

theorem erases_linkOrganization (projectId organizationId : String) :
    Erases (linkOrganization projectId organizationId)
      (linkOrganization projectId organizationId) := by
  intro db
  rw [linkOrganization, map_writable_bind]
  simp only [apply_ite (Except.map Database.erased)]
  rfl

theorem erases_insertUser (row : UserRow) : Erases (insertUser row) (insertUser row.erased) := by
  intro db
  -- Whether a user is there already is told by its organization, address and id, which are kept.
  rw [insertUser, map_writable_bind, insertUser]
  simp only [apply_ite (Except.map Database.erased), map_erased_ok, Database.erased_insertUser,
    Database.users_erased, List.any_map]
  rfl

theorem erases_insertSigningKey (row : SigningKeyRow) :
    Erases (insertSigningKey row) (insertSigningKey row.erased) := by
  intro db
  rw [insertSigningKey, map_writable_bind, insertSigningKey]
  simp only [apply_ite (Except.map Database.erased), map_erased_ok,
    Database.erased_insertSigningKey, Database.signingKeys_erased, List.any_map]
  rfl

/-- Whether the digest of an API key is there already. -/
def digestTaken (row : ApiKeyRow) (db : Database) : Bool :=
  db.apiKeys.any (·.secretDigest == row.secretDigest)

/-- Besides the erased tables, only whether the digest is taken counts for an API key. -/
theorem map_insertApiKey (row : ApiKeyRow) (db : Database) :
    (insertApiKey row db).map Database.erased =
      db.erased.writable [.apiKeys, .projects] >>= fun _ =>
        if digestTaken row db then .error (.duplicate .apiKeys ["secret_sha256"])
        else if db.erased.apiKeys.any (·.id == row.erased.id) then
          .error (.duplicate .apiKeys ["id"])
        else if db.erased.hasProject row.erased.projectId then
          .ok { db.erased with apiKeys := db.erased.apiKeys ++ [row.erased] }
        else .error .dangling := by
  rw [insertApiKey, map_writable_bind]
  simp only [apply_ite (Except.map Database.erased), map_erased_ok, Database.erased_insertApiKey,
    Database.apiKeys_erased, List.any_map]
  rfl

theorem map_insertApiKey_eq {row row' : ApiKeyRow} {db db' : Database}
    (hrow : row.erased = row'.erased) (hdb : db.erased = db'.erased)
    (htaken : digestTaken row db = digestTaken row' db') :
    (insertApiKey row db).map Database.erased = (insertApiKey row' db').map Database.erased := by
  rw [map_insertApiKey, map_insertApiKey, hrow, hdb, htaken]

end Statement

theorem SigningKey.erases_insert (key : SigningKey) :
    Statement.Erases (.all [.insertSigningKey key.row])
      (.all [.insertSigningKey key.erased.row]) :=
  .all (.cons (Statement.erases_insertSigningKey _) .nil)

theorem NewConsoleProject.erases_statements (p : NewConsoleProject) :
    Statement.Erases (.all p.statements) (.all p.erased.statements) := by
  have hempty : Statement.Erases noProjects noProjects := by
    intro db
    rw [noProjects, Statement.map_require_bind]
    simp only [apply_ite (Except.map Database.erased)]
    rfl
  exact .all (.cons hempty (.cons (Statement.erases_insertProject _)
    (.cons (Statement.erases_insertTrustedDomain _) (.cons (Statement.erases_insertTrustedDomain _)
    (.cons (Statement.erases_insertOrganization _) (.cons (Statement.erases_linkOrganization _ _)
    (.cons (Statement.erases_insertUser _) (.cons (Statement.erases_insertSigningKey _)
    .nil))))))))

theorem NewProject.erases_statements (p : NewProject) :
    Statement.Erases (.all p.statements) (.all p.erased.statements) := by
  have hconsole : Statement.Erases p.fromConsole p.erased.fromConsole := by
    intro db
    have hfound : db.erased.project? p.erased.consoleProjectId = db.project? p.consoleProjectId :=
      rfl
    rw [fromConsole, Statement.map_require_bind, fromConsole, hfound]
    cases db.project? p.consoleProjectId with
    | none => rfl
    | some row =>
      simp only [apply_ite (Except.map Database.erased)]
      rfl
  exact .all (.cons hconsole (.cons (Statement.erases_insertOrganization _)
    (.cons (Statement.erases_insertProject _) (.cons (Statement.erases_insertTrustedDomain _)
    (.cons (Statement.erases_insertSigningKey _) .nil)))))

/-! ## Queries on erased tables -/

theorem SigningKeyRow.record_erased (row : SigningKeyRow) :
    row.erased.record = row.record.map SigningKey.erased := by
  rw [record, record, id_erased, projectId_erased]
  rcases Database.readId row.id with e | id
  · rfl
  · rcases Database.readId row.projectId with e | projectId
    · rfl
    · rfl

namespace Database

theorem activeKeyRows_erased (db : Database) (projectId : Uuid) (now : Int) :
    db.erased.activeKeyRows projectId now =
      (db.activeKeyRows projectId now).map SigningKeyRow.erased := by
  have hsorted : ∀ rows : List SigningKeyRow, (rows.mergeSort SigningKeyRow.precedes).map
      SigningKeyRow.erased = (rows.map SigningKeyRow.erased).mergeSort SigningKeyRow.precedes :=
    fun rows => List.map_mergeSort fun _ _ _ _ => rfl
  rw [activeKeyRows, activeKeyRows, hsorted, List.map_reverse, signingKeys_erased, List.filter_map]
  -- Whose a key is and how long it is active stands in columns that are not erased.
  rw [List.filter_congr fun k _ => ?_]
  rw [Function.comp_apply, SigningKeyRow.projectId_erased, SigningKeyRow.expiresAt_erased]

theorem activeSigningKeys_erased (db : Database) (projectId : Uuid) (now : Int) :
    db.erased.activeSigningKeys projectId now =
      (db.activeSigningKeys projectId now).map (List.map SigningKey.erased) := by
  have hrecords : SigningKeyRow.record ∘ SigningKeyRow.erased =
      fun row => row.record.map SigningKey.erased := funext SigningKeyRow.record_erased
  rw [activeSigningKeys, activeSigningKeys, require_erased, activeKeyRows_erased, List.mapM_map,
    hrecords, ← Traversal.map_mapM]
  rcases db.require [.signingKeys] with e | ⟨⟩
  · rfl
  · rfl

/-- Of a digest that no API key has, nothing is found. -/
theorem findApiKey_of_not_stored {db : Database} {digest : Bytes}
    (h : ∀ row ∈ db.apiKeys, row.secretDigest ≠ digest) :
    db.findApiKey digest = db.require [.apiKeys] >>= fun _ => .ok none := by
  have hnone : db.apiKeys.find? (·.secretDigest == digest) = none := by
    rw [List.find?_eq_none]
    intro row hrow
    rw [beq_iff_eq]
    exact h row hrow
  rw [findApiKey, hnone]
  rfl

end Database
end Gatehouse
