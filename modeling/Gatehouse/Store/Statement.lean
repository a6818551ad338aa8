import Gatehouse.Store.Database

/-!
# Statements

A statement changes one table or fails. It is refused while another writer holds the tables.
Inserting checks the unique columns first, then that the entry a row refers to exists. A transaction
is a list of statements, carried out one after the other; it takes effect as a whole or not at all.
-/

namespace Gatehouse

/-- A change of the tables that may fail. -/
abbrev Statement := Database → Except StoreError Database

namespace StoreError

/-- The failure of a row whose values in some columns exist already. -/
def duplicate (table : Table) (columns : List String) : StoreError :=
  .alreadyExists ("UNIQUE constraint failed: " ++
    ", ".intercalate (columns.map fun c => table.name ++ "." ++ c))

/-- The failure of a row that refers to an entry that does not exist. -/
def dangling : StoreError := .notFound "FOREIGN KEY constraint failed"

end StoreError

namespace Statement

/-- Carries out statements one after the other. -/
def all : List Statement → Statement
  | [], db => .ok db
  | s :: ss, db =>
    match s db with
    | .ok db => all ss db
    | .error e => .error e

@[simp] theorem all_nil (db : Database) : all [] db = .ok db := rfl

theorem all_cons (s : Statement) (ss : List Statement) (db : Database) :
    all (s :: ss) db = s db >>= all ss := by
  cases h : s db <;> simp [all, h, bind, Except.bind]

theorem all_append (ss ts : List Statement) (db : Database) :
    all (ss ++ ts) db = all ss db >>= all ts := by
  induction ss generalizing db with
  | nil => rfl
  | cons s ss ih =>
    rw [List.cons_append, all_cons, all_cons]
    cases s db with
    | error e => rfl
    | ok db => exact ih db

/-- Adds a project. -/
def insertProject (row : ProjectRow) : Statement := fun db => do
  db.writable [.projects]
  if row.isConsole ∧ db.projects.any (·.isConsole) then
    .error (.duplicate .projects ["is_console"])
  else if row.organizationId.isSome ∧
      db.projects.any (·.organizationId == row.organizationId) then
    .error (.duplicate .projects ["organization_id"])
  else if db.hasProject row.id then .error (.duplicate .projects ["id"])
  else .ok { db with projects := db.projects ++ [row] }

/-- Adds a trusted domain unless it is there. -/
def insertTrustedDomain (row : TrustedDomainRow) : Statement := fun db => do
  db.writable [.trustedDomains, .projects]
  if db.trustedDomains.contains row then .ok db
  else if db.hasProject row.projectId then
    .ok { db with trustedDomains := db.trustedDomains ++ [row] }
  else .error .dangling

/-- Adds an organization. -/
def insertOrganization (row : OrganizationRow) : Statement := fun db => do
  db.writable [.organizations, .projects]
  if db.hasOrganization row.id then .error (.duplicate .organizations ["id"])
  else if db.hasProject row.projectId then
    .ok { db with organizations := db.organizations ++ [row] }
  else .error .dangling

/-- Makes an organization the one that manages a project. -/
def linkOrganization (projectId organizationId : String) : Statement := fun db => do
  db.writable [.projects]
  if db.hasProject projectId ∧
      db.projects.any fun p => p.id != projectId && p.organizationId == some organizationId then
    .error (.duplicate .projects ["organization_id"])
  else
    .ok { db with projects := db.projects.map fun p =>
            if p.id == projectId then { p with organizationId := some organizationId } else p }

/-- Adds a user. -/
def insertUser (row : UserRow) : Statement := fun db => do
  db.writable [.users, .organizations]
  if db.users.any fun u => u.organizationId == row.organizationId && u.email == row.email then
    .error (.duplicate .users ["organization_id", "email"])
  else if db.users.any (·.id == row.id) then .error (.duplicate .users ["id"])
  else if db.hasOrganization row.organizationId then
    .ok { db with users := db.users ++ [row] }
  else .error .dangling

/-- Adds a session signing key. -/
def insertSigningKey (row : SigningKeyRow) : Statement := fun db => do
  db.writable [.signingKeys, .projects]
  if db.signingKeys.any (·.id == row.id) then .error (.duplicate .signingKeys ["id"])
  else if db.hasProject row.projectId then
    .ok { db with signingKeys := db.signingKeys ++ [row] }
  else .error .dangling

/-- Adds a backend API key. -/
def insertApiKey (row : ApiKeyRow) : Statement := fun db => do
  db.writable [.apiKeys, .projects]
  if db.apiKeys.any (·.secretDigest == row.secretDigest) then
    .error (.duplicate .apiKeys ["secret_sha256"])
  else if db.apiKeys.any (·.id == row.id) then .error (.duplicate .apiKeys ["id"])
  else if db.hasProject row.projectId then
    .ok { db with apiKeys := db.apiKeys ++ [row] }
  else .error .dangling

/-- Changes the projects with a given id. -/
def updateProject (id : Uuid) (change : ProjectRow → ProjectRow) : Statement := fun db => do
  db.writable [.projects]
  .ok { db with projects := db.projects.map fun p => if p.id == id.text then change p else p }

/-- Revokes the API key of a project. -/
def revokeApiKey (projectId id : Uuid) : Statement := fun db => do
  db.writable [.apiKeys]
  if db.apiKeys.any (·.isKeyOf projectId id) then
    .ok { db with apiKeys := db.apiKeys.map fun k =>
            if k.isKeyOf projectId id then { k with revoked := true } else k }
  else .error (.notFound s!"backend api key {id}")

/-- Counts one email of a project on a day. -/
def countEmail (projectId : Uuid) (day : Int) : Statement := fun db => do
  db.writable [.quotaUsage, .projects]
  if db.quotaUsage.any (·.isCounterOf projectId day) then
    .ok { db with quotaUsage := db.quotaUsage.map fun c =>
            if c.isCounterOf projectId day then c.next else c }
  else if db.hasProject projectId.text then
    .ok { db with quotaUsage := db.quotaUsage ++ [⟨projectId.text, day, 1⟩] }
  else .error .dangling

end Statement

/-! ## Rows of records -/

/-- The row of a signing key. -/
def SigningKey.row (key : SigningKey) : SigningKeyRow :=
  { id := key.id.text, projectId := key.projectId.text, publicKey := key.publicKey,
    privateKeyCiphertext := key.privateKeyCiphertext, expiresAt := key.expiresAt,
    createdAt := key.createdAt }

/-- The row of a new API key. -/
def NewApiKey.row (key : NewApiKey) : ApiKeyRow :=
  { id := key.id.text, projectId := key.projectId.text, displayName := key.displayName,
    secretDigest := key.secretDigest, authenticationOnly := key.authenticationOnly,
    revoked := false, createdAt := key.createdAt }

namespace NewConsoleProject

/-- The row of the project, before its organization exists. -/
def projectRow (p : NewConsoleProject) : ProjectRow :=
  { id := p.projectId.text, organizationId := none, isConsole := true,
    displayName := p.displayName, vaultDomain := p.vaultDomain, cookieDomain := p.consoleDomain,
    createdAt := p.createdAt }

/-- The row of the organization. -/
def organizationRow (p : NewConsoleProject) : OrganizationRow :=
  { id := p.organizationId.text, projectId := p.projectId.text, displayName := p.displayName,
    createdAt := p.createdAt }

/-- The row of the owner. -/
def ownerRow (p : NewConsoleProject) : UserRow :=
  { id := p.owner.id.text, organizationId := p.organizationId.text, email := p.owner.email,
    passwordHash := p.owner.passwordHash, isOwner := p.owner.isOwner, createdAt := p.createdAt }

/-- The condition under which the console can be bootstrapped: there is no project. -/
def noProjects : Statement := fun db => do
  db.require [.projects]
  if db.projects.isEmpty then .ok db
  else .error (.preconditionFailed s!"project count is not zero: {db.projects.length}")

/-- The statements of the bootstrap, in their order. The project and its organization refer to
each other, so the project is linked once both exist. -/
def statements (p : NewConsoleProject) : List Statement := [
  noProjects,
  .insertProject p.projectRow,
  .insertTrustedDomain ⟨p.projectId.text, p.consoleDomain⟩,
  .insertTrustedDomain ⟨p.projectId.text, p.vaultDomain⟩,
  .insertOrganization p.organizationRow,
  .linkOrganization p.projectId.text p.organizationId.text,
  .insertUser p.ownerRow,
  .insertSigningKey p.signingKey.row]

end NewConsoleProject

namespace NewProject

/-- The row of the project. -/
def projectRow (p : NewProject) : ProjectRow :=
  { id := p.projectId.text, organizationId := some p.organizationId.text, isConsole := false,
    displayName := p.displayName, vaultDomain := p.vaultDomain, cookieDomain := p.vaultDomain,
    createdAt := p.createdAt }

/-- The row of the managing organization. -/
def organizationRow (p : NewProject) : OrganizationRow :=
  { id := p.organizationId.text, projectId := p.consoleProjectId.text,
    displayName := p.displayName, createdAt := p.createdAt }

/-- The condition under which a project can be made from another: that one is the console. -/
def fromConsole (p : NewProject) : Statement := fun db => do
  db.require [.projects]
  match db.project? p.consoleProjectId with
  | none => .error (.notFound s!"project {p.consoleProjectId}")
  | some row =>
    if row.isConsole then .ok db
    else .error (.preconditionFailed s!"project {p.consoleProjectId} is not the console project")

/-- The statements that make a project, in their order. -/
def statements (p : NewProject) : List Statement := [
  p.fromConsole,
  .insertOrganization p.organizationRow,
  .insertProject p.projectRow,
  .insertTrustedDomain ⟨p.projectId.text, p.vaultDomain⟩,
  .insertSigningKey p.signingKey.row]

end NewProject

namespace ProjectUpdate

/-- The condition under which a project can be updated: it exists. -/
def exists? (u : ProjectUpdate) : Statement := fun db => do
  db.require [.projects]
  if db.hasProject u.projectId.text then .ok db
  else .error (.notFound s!"project {u.projectId}")

/-- The statements of an update, one for each field that has a new value. -/
def statements (u : ProjectUpdate) : List Statement :=
  u.exists? ::
    (u.vaultDomain.toList.map fun v =>
      Statement.updateProject u.projectId fun p => { p with vaultDomain := v }) ++
    (u.logoUrl.toList.map fun v =>
      Statement.updateProject u.projectId fun p => { p with logoUrl := some v }) ++
    (u.darkModeLogoUrl.toList.map fun v =>
      Statement.updateProject u.projectId fun p => { p with darkModeLogoUrl := some v })

end ProjectUpdate
end Gatehouse
