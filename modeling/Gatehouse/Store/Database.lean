import Gatehouse.Limit
import Gatehouse.Store.Error
import Gatehouse.Store.Record
import Gatehouse.Text.Quoted

/-!
# The tables of the identity store

Each table is the list of its rows, oldest first. Ids are stored as text; a stored id is read back
as an identifier only when its row is handed out, and a text that is none is a malformed value. A
table may be missing, and then whatever needs it fails. The tables may be held by somebody else, and
then whatever would write is refused. Reading goes on beside another writer, but not beside one who
holds the tables for itself alone.
-/

namespace Gatehouse

/-- The tables. -/
inductive Table where
  | projects
  | trustedDomains
  | organizations
  | users
  | signingKeys
  | apiKeys
  | quotaUsage
deriving DecidableEq, Repr

namespace Table

/-- All tables. -/
def all : List Table :=
  [projects, trustedDomains, organizations, users, signingKeys, apiKeys, quotaUsage]

/-- The stored name of a table. -/
def name : Table → String
  | projects => "projects"
  | trustedDomains => "project_trusted_domains"
  | organizations => "organizations"
  | users => "users"
  | signingKeys => "session_signing_keys"
  | apiKeys => "backend_api_keys"
  | quotaUsage => "project_email_daily_quota_usage"

/-- The table with a given name. -/
def ofName? (name : String) : Option Table :=
  all.find? (·.name == name)

end Table

/-- A row of the projects. -/
structure ProjectRow where
  id : String
  organizationId : Option String
  isConsole : Bool
  displayName : String
  vaultDomain : String
  cookieDomain : String
  logoUrl : Option String := none
  darkModeLogoUrl : Option String := none
  emailQuotaDaily : Option Int := none
  createdAt : Int
deriving DecidableEq, Repr

/-- A row of the trusted domains. -/
structure TrustedDomainRow where
  projectId : String
  domain : String
deriving DecidableEq, Repr

/-- A row of the organizations. -/
structure OrganizationRow where
  id : String
  /-- The project that owns the organization. -/
  projectId : String
  displayName : String
  createdAt : Int
deriving DecidableEq, Repr

/-- A row of the users. -/
structure UserRow where
  id : String
  organizationId : String
  email : String
  passwordHash : Option String
  isOwner : Bool
  createdAt : Int
deriving DecidableEq, Repr

/-- A row of the session signing keys. -/
structure SigningKeyRow where
  id : String
  projectId : String
  publicKey : Bytes
  privateKeyCiphertext : Bytes
  expiresAt : Int
  createdAt : Int
deriving DecidableEq, Repr

/-- A row of the backend API keys. -/
structure ApiKeyRow where
  id : String
  projectId : String
  displayName : String
  secretDigest : Bytes
  authenticationOnly : Bool
  revoked : Bool
  createdAt : Int
deriving DecidableEq, Repr

/-- Whether a row is the API key of a project. -/
def ApiKeyRow.isKeyOf (row : ApiKeyRow) (projectId id : Uuid) : Bool :=
  row.projectId == projectId.text && row.id == id.text

/-- A row of the daily email counters. -/
structure UsageRow where
  projectId : String
  day : Int
  usage : Int
deriving DecidableEq, Repr

namespace UsageRow

/-- Whether a row counts the emails of a project on a day. -/
def isCounterOf (row : UsageRow) (projectId : Uuid) (day : Int) : Bool :=
  row.projectId == projectId.text && row.day == day

/-- The greatest count that is kept. A counter that passes it stays beyond it. -/
def maxUsage : Int := Limit.bits63 - 1

/-- The counter after one more email. -/
def next (row : UsageRow) : UsageRow :=
  { row with usage := min (row.usage + 1) (maxUsage + 1) }

end UsageRow

/-- What the database answers whoever it does not let write. -/
structure Refusal where
  code : Nat
  message : String
  /-- Whether those who only read are answered so too. -/
  toReaders : Bool := false
deriving DecidableEq, Repr

/-- The contents of the store. -/
structure Database where
  projects : List ProjectRow := []
  trustedDomains : List TrustedDomainRow := []
  organizations : List OrganizationRow := []
  users : List UserRow := []
  signingKeys : List SigningKeyRow := []
  apiKeys : List ApiKeyRow := []
  quotaUsage : List UsageRow := []
  /-- The tables that do not exist. -/
  missing : List Table := []
  /-- Why nobody may write now, if so. -/
  refusal : Option Refusal := none
deriving DecidableEq, Repr

namespace Database

/-- The contents of a new store. -/
def empty : Database := {}

/-- The identifier that a stored text writes. -/
def readId (text : String) : Except StoreError Uuid :=
  match Uuid.parse? text with
  | some id => .ok id
  | none => .error (.malformedValue ("uuid " ++ Text.quoted text))

/-- Succeeds if the tables may be read. -/
def allowReading (db : Database) : Except StoreError Unit :=
  match db.refusal with
  | some r => if r.toReaders then .error (.ofRefusal r.code r.message) else .ok ()
  | none => .ok ()

/-- Succeeds if all of some tables exist and may be read. -/
def require (db : Database) : List Table → Except StoreError Unit
  | [] => db.allowReading
  | t :: ts =>
    if db.missing.contains t then .error (.ofRefusal 1 ("no such table: " ++ t.name))
    else db.require ts

/-- Whoever may write may read. -/
theorem allowReading_of_refusal {db : Database} (h : db.refusal = none) :
    db.allowReading = .ok () := by
  rw [allowReading, h]

theorem require_eq_ok_iff {db : Database} {ts : List Table} :
    db.require ts = .ok () ↔ (∀ t ∈ ts, t ∉ db.missing) ∧ db.allowReading = .ok () := by
  induction ts with
  | nil => simp [require]
  | cons t ts ih => by_cases h : t ∈ db.missing <;> simp [require, h, ih]

/-- Succeeds if the tables may be written. -/
def allow (db : Database) : Except StoreError Unit :=
  match db.refusal with
  | some r => .error (.ofRefusal r.code r.message)
  | none => .ok ()

theorem allow_eq_ok_iff {db : Database} : db.allow = .ok () ↔ db.refusal = none := by
  cases h : db.refusal <;> simp [allow, h]

/-- Succeeds if all of some tables exist and may be written. -/
def writable (db : Database) (ts : List Table) : Except StoreError Unit := do
  db.require ts
  db.allow

/-- Number of rows of a table. -/
def count (db : Database) : Table → Nat
  | .projects => db.projects.length
  | .trustedDomains => db.trustedDomains.length
  | .organizations => db.organizations.length
  | .users => db.users.length
  | .signingKeys => db.signingKeys.length
  | .apiKeys => db.apiKeys.length
  | .quotaUsage => db.quotaUsage.length

/-- The contents without a table. -/
def drop (db : Database) (t : Table) : Database :=
  let db := { db with missing := t :: db.missing }
  match t with
  | .projects => { db with projects := [] }
  | .trustedDomains => { db with trustedDomains := [] }
  | .organizations => { db with organizations := [] }
  | .users => { db with users := [] }
  | .signingKeys => { db with signingKeys := [] }
  | .apiKeys => { db with apiKeys := [] }
  | .quotaUsage => { db with quotaUsage := [] }

/-- The contents after the store is closed and opened again: missing tables exist again, empty, and
all else is as it was. -/
def reopen (db : Database) : Database :=
  { db with missing := [] }

/-! ## Looking up -/

/-- The row of a project. -/
def project? (db : Database) (id : Uuid) : Option ProjectRow :=
  db.projects.find? (·.id == id.text)

/-- The domains stored for a project, in ascending order. -/
def domainsOf (db : Database) (id : Uuid) : List String :=
  ((db.trustedDomains.filter (·.projectId == id.text)).map (·.domain)).mergeSort (· ≤ ·)

/-- Whether a stored text is the id of a project. -/
def hasProject (db : Database) (id : String) : Bool :=
  db.projects.any (·.id == id)

/-- Whether a stored text is the id of an organization. -/
def hasOrganization (db : Database) (id : String) : Bool :=
  db.organizations.any (·.id == id)

end Database
end Gatehouse
