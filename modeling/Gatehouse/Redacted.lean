import Gatehouse.Auth.ApiKeys
import Gatehouse.Session.Provisioning
import Gatehouse.Session.Token
import Gatehouse.Text.Record

/-!
# Records without their secrets

How records are shown to a developer. The fields that hold a secret, or something a secret could be
guessed from, are shown without their value.
-/

namespace Gatehouse

/-- A user to be stored, without the password hash. -/
def NewUser.describe (u : NewUser) : String :=
  Text.record "NewUser" [("id", u.id.text), ("email", Text.quoted u.email),
    ("password_hash", Text.optional (fun _ => Text.redacted) u.passwordHash),
    ("is_owner", toString u.isOwner)]

namespace SigningKey

/-- A signing key under a name, without the private half. -/
def describeAs (key : SigningKey) (name : String) : String :=
  Text.record name [("id", key.id.text), ("project_id", key.projectId.text),
    ("private_key_ciphertext", Text.redacted), ("expires_at", toString key.expiresAt)] true

/-- A signing key to be stored. -/
def describeNew (key : SigningKey) : String := key.describeAs "NewSigningKey"

/-- A stored signing key. -/
def describe (key : SigningKey) : String := key.describeAs "SigningKeyRecord"

end SigningKey

/-- A project. -/
def Project.describe (p : Project) : String :=
  Text.record "Project" [("id", p.id.text),
    ("organization_id", Text.optional Uuid.text p.organizationId),
    ("is_console", toString p.isConsole), ("display_name", Text.quoted p.displayName),
    ("vault_domain", Text.quoted p.vaultDomain), ("cookie_domain", Text.quoted p.cookieDomain),
    ("logo_url", Text.optional Text.quoted p.logoUrl),
    ("dark_mode_logo_url", Text.optional Text.quoted p.darkModeLogoUrl),
    ("email_quota_daily", Text.optional toString p.emailQuotaDaily),
    ("trusted_domains", Text.list Text.quoted p.trustedDomains),
    ("created_at", toString p.createdAt)]

/-- An update of a project. -/
def ProjectUpdate.describe (u : ProjectUpdate) : String :=
  Text.record "ProjectUpdate" [("project_id", u.projectId.text),
    ("vault_domain", Text.optional Text.quoted u.vaultDomain),
    ("logo_url", Text.optional Text.quoted u.logoUrl),
    ("dark_mode_logo_url", Text.optional Text.quoted u.darkModeLogoUrl)]

/-- An API key to be stored, without the digest of its secret. -/
def NewApiKey.describe (key : NewApiKey) : String :=
  Text.record "NewBackendApiKey" [("id", key.id.text), ("project_id", key.projectId.text),
    ("display_name", Text.quoted key.displayName), ("secret_sha256", Text.redacted),
    ("authentication_only", toString key.authenticationOnly)]

/-- A stored API key. -/
def ApiKey.describe (key : ApiKey) : String :=
  Text.record "BackendApiKeyRecord" [("id", key.id.text), ("project_id", key.projectId.text),
    ("display_name", Text.quoted key.displayName),
    ("authentication_only", toString key.authenticationOnly), ("revoked", toString key.revoked),
    ("created_at", toString key.createdAt)]

/-- A new API key, without its secret. -/
def CreatedApiKey.describe (key : CreatedApiKey) : String :=
  Text.record "CreatedBackendApiKey"
    [("record", key.record.describe), ("secret", Text.redacted)]

/-- A symmetric key, without its bytes. -/
def SymmetricKey.describe (_ : SymmetricKey) : String :=
  Text.record "SymmetricKey" [("bytes", Text.redacted)]

/-- The beginning of a key pair, up to the numbers of its public half. -/
def PrivateKey.describeHead (_ : PrivateKey) : String :=
  "SigningKeyPair \x7b secret: " ++ Text.redacted ++ ", public: SigningPublicKey"

/-- A bootstrapped console, without the owner's password. -/
def Provisioning.Console.describe (c : Provisioning.Console) : String :=
  Text.record "ConsoleProject" [("project_id", c.projectId.text),
    ("organization_id", c.organizationId.text), ("root_user_id", c.rootUserId.text),
    ("root_user_email", Text.quoted c.rootUserEmail), ("root_user_password", Text.redacted)]

/-- An issued token, without its text. -/
def IssuedToken.describe (t : IssuedToken) : String :=
  Text.record "IssuedToken"
    [("access_token", Text.redacted), ("expires_at", toString t.expiresAt)]

/-- The rules for tokens. -/
def TokenConfig.describe (c : TokenConfig) : String :=
  Text.record "TokenConfig" [("audience_root_domain", Text.quoted c.audienceRootDomain),
    ("access_token_ttl", Text.seconds c.accessTokenTtl), ("leeway", Text.seconds c.leeway)]

end Gatehouse
