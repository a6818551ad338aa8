import Gatehouse.Crypto.Error
import Gatehouse.Crypto.Gcm

/-!
# Sealed blobs

A sealed blob is a nonce of twelve bytes, the ciphertext and a tag of sixteen bytes, in this order.
Opening gives back what was sealed under the same key and additional data, and refuses every other
blob.
-/

namespace Gatehouse

/-- A key for authenticated encryption. -/
structure SymmetricKey where
  bytes : Bytes
  length_bytes : bytes.length = Aes.keySize
deriving DecidableEq

namespace SymmetricKey

/-- The key that some bytes are, if they have the right number. -/
def ofBytes (bytes : Bytes) : Except CryptoError SymmetricKey :=
  if h : bytes.length = Aes.keySize then .ok ⟨bytes, h⟩
  else .error (.invalidKey s!"expected {Aes.keySize} bytes, got {bytes.length}")

end SymmetricKey

namespace Aead

/-- A plaintext sealed with a given nonce. -/
def encrypt (key : SymmetricKey) (nonce plaintext aad : Bytes) : Bytes :=
  nonce ++ Gcm.encrypt key.bytes nonce aad plaintext

/-- The plaintext of a sealed blob. -/
def decrypt (key : SymmetricKey) (blob aad : Bytes) : Except CryptoError Bytes :=
  if blob.length < Gcm.nonceSize + Gcm.tagSize then .error (.invalidInput "ciphertext too short")
  else
    match Gcm.decrypt? key.bytes (blob.take Gcm.nonceSize) aad (blob.drop Gcm.nonceSize) with
    | some plaintext => .ok plaintext
    | none => .error (.decryptionFailed "authentication failed")

end Aead
end Gatehouse
