import Gatehouse.Bytes.Base64
import Gatehouse.Crypto.KeyEncoding
import Gatehouse.ExternalId
import Gatehouse.Json.Decode
import Gatehouse.Kms.Protector
import Gatehouse.Limit
import Gatehouse.Session.Error
import Gatehouse.Store.Operation

/-!
# Session signing keys

Each project signs its tokens with keys of its own. A key's private half is encrypted by the key
protector as soon as the key is made, and only the ciphertext is stored; the public half is stored
in the clear. Which keys are active is read from the store each time.
-/

namespace Gatehouse

/-- A public key as JSON Web Key. -/
structure Jwk where
  kty : String
  crv : String
  /-- The external id of the signing key. -/
  kid : String
  /-- The first coordinate. -/
  x : String
  /-- The second coordinate. -/
  y : String
  alg : String
  /-- What the key is for. -/
  keyUse : String
deriving DecidableEq, Repr

namespace Jwk

/-- A key as JSON. -/
def toJson (k : Jwk) : Json :=
  Json.obj [("kty", Json.str k.kty), ("crv", Json.str k.crv), ("kid", Json.str k.kid),
    ("x", Json.str k.x), ("y", Json.str k.y), ("alg", Json.str k.alg), ("use", Json.str k.keyUse)]

/-- The key that a JSON value gives. -/
def ofJson? (j : Json) : Option Jwk := do
  match ← Json.fields? (["kty", "crv", "kid", "x", "y", "alg", "use"].map .required) j with
  | [kty, crv, kid, x, y, alg, keyUse] =>
    return ⟨← kty.text?, ← crv.text?, ← kid.text?, ← x.text?, ← y.text?, ← alg.text?,
      ← keyUse.text?⟩
  | _ => none

end Jwk

/-- The public half of a session signing key. -/
structure SessionPublicKey where
  id : Uuid
  projectId : Uuid
  publicKey : PublicKey
  expiresAt : Int
deriving DecidableEq, Repr

namespace SessionPublicKey

/-- The public half of a stored key. -/
def ofRecord [Wording] (key : SigningKey) : Except SessionError SessionPublicKey :=
  match PublicKey.ofSubjectPublicKeyInfo key.publicKey with
  | .ok publicKey => .ok ⟨key.id, key.projectId, publicKey, key.expiresAt⟩
  | .error e => .error (.crypto e)

/-- The name of the key in token headers. -/
def kid (key : SessionPublicKey) : String :=
  IdFormat.signingKey.format key.id

/-- The key as JSON Web Key. -/
def toJwk (key : SessionPublicKey) : Jwk where
  kty := "EC"
  crv := "P-256"
  kid := key.kid
  x := Base64.urlSafe.encode key.publicKey.point.xBytes
  y := Base64.urlSafe.encode key.publicKey.point.yBytes
  alg := "ES256"
  keyUse := "sig"

/-- The key and its project as JSON. -/
def toJson (key : SessionPublicKey) : Json :=
  Json.obj [("id", Json.str key.id.text), ("project_id", Json.str key.projectId.text),
    ("expires_at", Json.int key.expiresAt), ("jwk", key.toJwk.toJson)]

end SessionPublicKey

/-- Random values for a new signing key. -/
structure KeyDraw where
  id : Uuid
  /-- The bytes that the private half is made of. -/
  seed : Bytes
deriving DecidableEq, Repr

/-- The service that makes and reads signing keys. -/
structure SigningKeys (σ : Type) where
  protector : KeyProtector σ
  /-- How long new keys are active, in seconds. -/
  lifetime : Nat := 365 * 24 * 60 * 60

namespace SigningKeys

variable {σ : Type}

/-- The part of the service that emits the events below. -/
def logTarget : String := "portier_session::signing_keys"

/-- Makes a key and has its private half encrypted. Nothing is stored. The clock is far from its
end: the lifetime is checked, its sum with the clock is not. -/
def generate (keys : SigningKeys σ) (draw : KeyDraw) (projectId : Uuid) (now : Int) :
    Call σ SessionError SigningKey := do
  let pair := PrivateKey.ofSeed draw.seed
  let ciphertext ← (Call.protect (keys.protector.encrypt pair.toPkcs8)).mapError .kms
  if keys.lifetime < Limit.bits63 then
    return {
      id := draw.id, projectId, publicKey := pair.publicKey.toSubjectPublicKeyInfo,
      privateKeyCiphertext := ciphertext, expiresAt := now + keys.lifetime, createdAt := now }
  else .fail (.invalidInput "signing key lifetime too large")

variable [Wording]

/-- Makes and stores a key for a project. -/
def create (keys : SigningKeys σ) (draw : KeyDraw) (projectId : Uuid) (now : Int) :
    Call σ SessionError SessionPublicKey := do
  let key ← keys.generate draw projectId now
  (Store.createSigningKey key).mapError .storage
  .emit { level := .info, target := logTarget, message := "Created session signing key",
          fields := [("project_id", .text (IdFormat.project.format projectId)),
                     ("kid", .text (IdFormat.signingKey.format key.id)),
                     ("expires_at", .number key.expiresAt)] }
  .ofExcept (SessionPublicKey.ofRecord key)

/-- Reads the public halves of a project's active keys, in order of preference. -/
def activePublicKeys (projectId : Uuid) (now : Int) :
    Call σ SessionError (List SessionPublicKey) := do
  let records ← (Store.activeSigningKeys projectId now).mapError .storage
  .ofExcept (records.mapM SessionPublicKey.ofRecord)

/-- Has the active key that comes first decrypted. -/
def signingKey (keys : SigningKeys σ) (projectId : Uuid) (now : Int) :
    Call σ SessionError (Uuid × PrivateKey) := do
  let records ← (Store.activeSigningKeys projectId now).mapError .storage
  match records with
  | [] => .fail (.noActiveSigningKey (IdFormat.project.format projectId))
  | record :: _ =>
    let bytes ← (Call.protect (keys.protector.decrypt record.privateKeyCiphertext)).mapError .kms
    let pair ← Call.ofExcept ((PrivateKey.ofPkcs8 bytes).mapError .crypto)
    .emit { level := .debug, target := logTarget, message := "Decrypted session signing key",
            fields := [("project_id", .text (IdFormat.project.format projectId)),
                       ("kid", .text (IdFormat.signingKey.format record.id))] }
    return (record.id, pair)

end SigningKeys
end Gatehouse
