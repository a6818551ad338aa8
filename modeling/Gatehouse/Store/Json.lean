import Gatehouse.Json.Member
import Gatehouse.Store.Database

/-!
# Records of the store as JSON

Ids are canonical text, bytes are hexadecimal, and an absent value is `null`. What the tables hold
is summed up by the rows of organizations and users and by the number of rows in the other tables.
What is to be stored is read from objects with the same members.
-/

namespace Gatehouse

/-! ## Writing -/

/-- An identifier as JSON. -/
def Uuid.toJson (id : Uuid) : Json := .str id.text

/-- Bytes as JSON. -/
def Bytes.toJson (bs : Bytes) : Json := .str (Hex.encode bs)

/-- A project as JSON. -/
def Project.toJson (p : Project) : Json :=
  .obj [("id", p.id.toJson), ("organization_id", .ofOption Uuid.toJson p.organizationId),
    ("is_console", .bool p.isConsole), ("display_name", .str p.displayName),
    ("vault_domain", .str p.vaultDomain), ("cookie_domain", .str p.cookieDomain),
    ("logo_url", .ofOption .str p.logoUrl),
    ("dark_mode_logo_url", .ofOption .str p.darkModeLogoUrl),
    ("email_quota_daily", .ofOption (fun n => .int n) p.emailQuotaDaily),
    ("trusted_domains", .array (p.trustedDomains.map .str)), ("created_at", .int p.createdAt)]

/-- A signing key as JSON. -/
def SigningKey.toJson (k : SigningKey) : Json :=
  .obj [("id", k.id.toJson), ("project_id", k.projectId.toJson),
    ("public_key", Bytes.toJson k.publicKey),
    ("private_key_ciphertext", Bytes.toJson k.privateKeyCiphertext),
    ("expires_at", .int k.expiresAt), ("created_at", .int k.createdAt)]

/-- The members of an API key as JSON. -/
def ApiKey.members (k : ApiKey) : List (String × Json) :=
  [("id", k.id.toJson), ("project_id", k.projectId.toJson), ("display_name", .str k.displayName),
    ("authentication_only", .bool k.authenticationOnly), ("revoked", .bool k.revoked),
    ("created_at", .int k.createdAt)]

/-- An API key as JSON. -/
def ApiKey.toJson (k : ApiKey) : Json := .obj k.members

/-- An organization as JSON. -/
def OrganizationRow.toJson (o : OrganizationRow) : Json :=
  .obj [("id", .str o.id), ("project_id", .str o.projectId), ("display_name", .str o.displayName),
    ("created_at", .int o.createdAt)]

/-- A user as JSON. Of the password hash only the part that names function and costs is shown. -/
def UserRow.toJson (u : UserRow) : Json :=
  let head (hash : String) := Json.str ("$".intercalate ((hash.splitOn "$").take 4))
  .obj [("id", .str u.id), ("organization_id", .str u.organizationId), ("email", .str u.email),
    ("password_hash_head", .ofOption head u.passwordHash), ("is_owner", .bool u.isOwner),
    ("created_at", .int u.createdAt)]

/-- The tables as JSON. -/
def Database.summary (db : Database) : Json :=
  let counted := [Table.apiKeys, .quotaUsage, .trustedDomains, .projects, .signingKeys]
  .obj [("counts", .obj (counted.map fun t => (t.name, .int (db.count t)))),
    ("organizations", .array (db.organizations.map OrganizationRow.toJson)),
    ("users", .array (db.users.map UserRow.toJson))]

/-! ## Reading -/

open Json (Reading member member? flag text? uuid? hex? integer?)

/-- Reads a signing key. -/
def SigningKey.read (j : Json) : Reading SigningKey := do
  return {
    id := ← member uuid? j "id", projectId := ← member uuid? j "project_id",
    publicKey := ← member hex? j "public_key",
    privateKeyCiphertext := ← member hex? j "private_key_ciphertext",
    expiresAt := ← member integer? j "expires_at", createdAt := ← member integer? j "created_at" }

/-- Reads a user. -/
def NewUser.read (j : Json) : Reading NewUser := do
  return {
    id := ← member uuid? j "id", email := ← member text? j "email",
    passwordHash := ← member? text? j "password_hash", isOwner := ← flag j "is_owner" }

/-- Reads an API key. -/
def NewApiKey.read (j : Json) : Reading NewApiKey := do
  return {
    id := ← member uuid? j "id", projectId := ← member uuid? j "project_id",
    displayName := ← member text? j "display_name",
    secretDigest := ← member hex? j "secret_sha256",
    authenticationOnly := ← flag j "authentication_only",
    createdAt := ← member integer? j "created_at" }

/-- Reads the bootstrap of the console. -/
def NewConsoleProject.read (j : Json) : Reading NewConsoleProject := do
  return {
    projectId := ← member uuid? j "project_id",
    organizationId := ← member uuid? j "organization_id",
    displayName := ← member text? j "display_name",
    consoleDomain := ← member text? j "console_domain",
    vaultDomain := ← member text? j "vault_domain",
    owner := ← NewUser.read (← member some j "owner"),
    signingKey := ← SigningKey.read (← member some j "signing_key"),
    createdAt := ← member integer? j "created_at" }

/-- Reads a tenant project. -/
def NewProject.read (j : Json) : Reading NewProject := do
  return {
    projectId := ← member uuid? j "project_id",
    consoleProjectId := ← member uuid? j "console_project_id",
    organizationId := ← member uuid? j "organization_id",
    displayName := ← member text? j "display_name",
    vaultDomain := ← member text? j "vault_domain",
    signingKey := ← SigningKey.read (← member some j "signing_key"),
    createdAt := ← member integer? j "created_at" }

/-- Reads new values for the fields of a project. -/
def ProjectUpdate.read (id : Uuid) (j : Json) : Reading ProjectUpdate := do
  return {
    projectId := id, vaultDomain := ← member? text? j "vault_domain",
    logoUrl := ← member? text? j "logo_url",
    darkModeLogoUrl := ← member? text? j "dark_mode_logo_url" }

end Gatehouse
