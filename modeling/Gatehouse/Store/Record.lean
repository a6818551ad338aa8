import Gatehouse.Uuid

/-!
# Records of the identity store

What goes into the store and what comes out of it. Ids are plain identifiers here, times are
seconds since the beginning of 1970.
-/

namespace Gatehouse

/-- A tenant. -/
structure Project where
  id : Uuid
  /-- The organization that manages the project. -/
  organizationId : Option Uuid
  /-- Whether this is the project that operates the service. -/
  isConsole : Bool
  displayName : String
  /-- The domain of the login pages. -/
  vaultDomain : String
  /-- The domain that session cookies belong to. -/
  cookieDomain : String
  logoUrl : Option String
  darkModeLogoUrl : Option String
  /-- The project's own daily email quota. -/
  emailQuotaDaily : Option Nat
  /-- The domains that may host flows of the project, in ascending order. -/
  trustedDomains : List String
  createdAt : Int
deriving DecidableEq, Repr

/-- A user who is made together with a project. -/
structure NewUser where
  id : Uuid
  email : String
  passwordHash : Option String
  /-- Whether the user owns its organization. -/
  isOwner : Bool
deriving DecidableEq, Repr

/-- A session signing key, to be stored or as stored. -/
structure SigningKey where
  /-- The id, which also names the key in token headers. -/
  id : Uuid
  projectId : Uuid
  /-- Subject public key info. -/
  publicKey : Bytes
  /-- The private half as the key protector encrypted it. -/
  privateKeyCiphertext : Bytes
  expiresAt : Int
  createdAt : Int
deriving DecidableEq, Repr

/-- All that the bootstrap of the console writes. The console's organization manages the console
project itself, and the owner is a user of that organization. -/
structure NewConsoleProject where
  projectId : Uuid
  organizationId : Uuid
  displayName : String
  /-- The console's domain, which its cookies belong to. -/
  consoleDomain : String
  vaultDomain : String
  owner : NewUser
  signingKey : SigningKey
  createdAt : Int
deriving DecidableEq, Repr

/-- A tenant project. Its managing organization is made inside the console project. -/
structure NewProject where
  projectId : Uuid
  consoleProjectId : Uuid
  organizationId : Uuid
  displayName : String
  /-- The domain of the login pages, of cookies, and the only trusted domain. -/
  vaultDomain : String
  signingKey : SigningKey
  createdAt : Int
deriving DecidableEq, Repr

/-- New values for some fields of a project. -/
structure ProjectUpdate where
  projectId : Uuid
  vaultDomain : Option String := none
  logoUrl : Option String := none
  darkModeLogoUrl : Option String := none
deriving DecidableEq, Repr

/-- A backend API key to be stored. -/
structure NewApiKey where
  id : Uuid
  projectId : Uuid
  displayName : String
  /-- The digest of the secret's bytes. -/
  secretDigest : Bytes
  /-- Whether the key may call authentication procedures only. -/
  authenticationOnly : Bool
  createdAt : Int
deriving DecidableEq, Repr

/-- A stored backend API key. The digest is never read back. -/
structure ApiKey where
  id : Uuid
  projectId : Uuid
  displayName : String
  authenticationOnly : Bool
  /-- Revoked keys never authenticate. -/
  revoked : Bool
  createdAt : Int
deriving DecidableEq, Repr

/-- The stored form of a new key. -/
def NewApiKey.record (key : NewApiKey) : ApiKey :=
  { id := key.id, projectId := key.projectId, displayName := key.displayName,
    authenticationOnly := key.authenticationOnly, revoked := false, createdAt := key.createdAt }

end Gatehouse
