import Gatehouse.Auth.Error
import Gatehouse.Auth.Identity
import Gatehouse.Crypto.Sha256
import Gatehouse.Store.Operation

/-!
# Backend API keys

A key's secret is an external id around 128 random bits. Only the digest of those bits is stored;
the secret is shown once, when the key is made.
-/

namespace Gatehouse

/-- A new key with its secret. -/
structure CreatedApiKey where
  record : ApiKey
  secret : String
deriving DecidableEq, Repr

/-- Random values for a new key. -/
structure ApiKeyDraw where
  id : Uuid
  secret : Uuid
deriving DecidableEq, Repr

namespace ApiKeys

variable {σ : Type}

/-- The part of the service that emits the events below. -/
def logTarget : String := "portier_auth::api_key"

/-- The digest that is stored for a secret. -/
def digest (secret : Uuid) : Bytes :=
  Sha256.hash secret.toBytes

/-- Makes a key for a project. -/
def create (draw : ApiKeyDraw) (projectId : Uuid) (displayName : String) (authenticationOnly : Bool)
    (now : Int) : Call σ AuthError CreatedApiKey := do
  let record ← (Store.createApiKey {
      id := draw.id, projectId, displayName, secretDigest := digest draw.secret,
      authenticationOnly, createdAt := now }).mapError .ofStore
  .emit { level := .info, target := logTarget, message := "Created backend API key",
          fields := [("project_id", .text (IdFormat.project.format projectId)),
                     ("backend_api_key_id", .text (IdFormat.apiKey.format record.id)),
                     ("authentication_only", .flag authenticationOnly)] }
  return ⟨record, IdFormat.apiKeySecret.format draw.secret⟩

/-- Revokes a key of a project. -/
def revoke (projectId id : Uuid) : Call σ StoreError Unit := do
  Store.revokeApiKey projectId id
  .emit { level := .info, target := logTarget, message := "Revoked backend API key",
          fields := [("project_id", .text (IdFormat.project.format projectId)),
                     ("backend_api_key_id", .text (IdFormat.apiKey.format id))] }

/-- Refuses a secret. What is wrong with it is logged and not told. -/
def refuse {α : Type} (message : String) (fields : Log.Fields := []) : Call σ AuthError α := do
  .emit { level := .debug, target := logTarget, message, fields }
  .fail .unauthenticated

/-- Finds whom a secret identifies. -/
def authenticate (secret : String) : Call σ AuthError ApiKeyIdentity := do
  match IdFormat.apiKeySecret.parse secret with
  | .error _ => refuse "Malformed backend API key secret"
  | .ok token =>
    match ← (Store.findApiKey (digest token)).mapError .ofStore with
    | none => refuse "Unknown backend API key presented"
    | some record =>
      if record.revoked then
        refuse "Revoked backend API key presented"
          [("backend_api_key_id", .text (IdFormat.apiKey.format record.id))]
      else return ⟨record.id, record.projectId, record.authenticationOnly⟩

end ApiKeys
end Gatehouse
