import Gatehouse.Store.Database

/-!
# Queries

What can be read from the tables. A row is handed out only if every id and number in it has the
form it should have.
-/

namespace Gatehouse

/-- A number of 32 bits, or a malformed value that `what` names. -/
def Database.readCount (what : String) (n : Int) : Except StoreError Nat :=
  if 0 ≤ n ∧ n < Limit.bits32 then .ok n.toNat else .error (.malformedValue s!"{what} {n}")

namespace ProjectRow

/-- The project in a row, with its trusted domains. -/
def record (row : ProjectRow) (domains : List String) : Except StoreError Project := do
  let id ← Database.readId row.id
  let organizationId ← row.organizationId.mapM Database.readId
  let emailQuotaDaily ← row.emailQuotaDaily.mapM (Database.readCount "email quota")
  return {
    id, organizationId, isConsole := row.isConsole, displayName := row.displayName,
    vaultDomain := row.vaultDomain, cookieDomain := row.cookieDomain, logoUrl := row.logoUrl,
    darkModeLogoUrl := row.darkModeLogoUrl, emailQuotaDaily, trustedDomains := domains,
    createdAt := row.createdAt }

end ProjectRow

namespace SigningKeyRow

/-- The signing key in a row. -/
def record (row : SigningKeyRow) : Except StoreError SigningKey := do
  let id ← Database.readId row.id
  let projectId ← Database.readId row.projectId
  return {
    id, projectId, publicKey := row.publicKey, privateKeyCiphertext := row.privateKeyCiphertext,
    expiresAt := row.expiresAt, createdAt := row.createdAt }

/-- Whether a key comes before another in a list: by later expiry, then by later creation. -/
def precedes (a b : SigningKeyRow) : Bool :=
  b.expiresAt < a.expiresAt || (a.expiresAt == b.expiresAt && b.createdAt ≤ a.createdAt)

end SigningKeyRow

namespace ApiKeyRow

/-- The API key in a row. -/
def record (row : ApiKeyRow) : Except StoreError ApiKey := do
  let id ← Database.readId row.id
  let projectId ← Database.readId row.projectId
  return {
    id, projectId, displayName := row.displayName, authenticationOnly := row.authenticationOnly,
    revoked := row.revoked, createdAt := row.createdAt }

end ApiKeyRow

namespace Database

/-- A project. -/
def getProject (id : Uuid) (db : Database) : Except StoreError Project := do
  db.require [.projects]
  match db.project? id with
  | none => .error (.notFound s!"project {id}")
  | some row =>
    db.require [.trustedDomains]
    row.record (db.domainsOf id)

/-- The rows of a project's keys that are active at a time: latest expiry first, then latest
creation; of keys alike in both, the one that was stored last comes first. -/
def activeKeyRows (projectId : Uuid) (now : Int) (db : Database) : List SigningKeyRow :=
  (db.signingKeys.filter fun k => k.projectId == projectId.text && now < k.expiresAt).reverse
    |>.mergeSort SigningKeyRow.precedes

/-- A project's signing keys that are active at a time. -/
def activeSigningKeys (projectId : Uuid) (now : Int) (db : Database) :
    Except StoreError (List SigningKey) := do
  db.require [.signingKeys]
  (db.activeKeyRows projectId now).mapM SigningKeyRow.record

/-- The API key whose secret has a given digest. -/
def findApiKey (digest : Bytes) (db : Database) : Except StoreError (Option ApiKey) := do
  db.require [.apiKeys]
  (db.apiKeys.find? (·.secretDigest == digest)).mapM ApiKeyRow.record

/-- The project that an organization manages. -/
def backedProject (organizationId : Uuid) (db : Database) : Except StoreError Uuid := do
  db.require [.projects]
  match db.projects.find? (·.organizationId == some organizationId.text) with
  | none => .error (.notFound s!"project backed by organization {organizationId}")
  | some row => readId row.id

/-- The emails counted for a project on a day. -/
def usageOn (projectId : Uuid) (day : Int) (db : Database) : Except StoreError Nat :=
  match db.quotaUsage.find? (·.isCounterOf projectId day) with
  | none => .error (.queryFailed "no rows returned")
  | some row =>
    if UsageRow.maxUsage < row.usage then .error (.queryFailed "count out of range")
    else readCount "quota usage" row.usage

end Database
end Gatehouse
