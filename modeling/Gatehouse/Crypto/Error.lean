/-!
# Failures of cryptographic operations
-/

namespace Gatehouse

/-- Why a cryptographic operation failed, with a detail for whoever reads the log. -/
inductive CryptoError where
  /-- No key could be made. -/
  | keyGenerationFailed (detail : String)
  /-- A plaintext could not be encrypted. -/
  | encryptionFailed (detail : String)
  /-- A ciphertext could not be decrypted. -/
  | decryptionFailed (detail : String)
  /-- A key could not be written. -/
  | encodingFailed (detail : String)
  /-- Bytes are no key of the expected kind. -/
  | invalidKey (detail : String)
  /-- An input has an impossible form. -/
  | invalidInput (detail : String)
deriving DecidableEq, Repr

/-- The name of a kind of failure, for programs. -/
def CryptoError.name : CryptoError → String
  | keyGenerationFailed _ => "KeyGenerationFailed"
  | encryptionFailed _ => "EncryptionFailed"
  | decryptionFailed _ => "DecryptionFailed"
  | encodingFailed _ => "EncodingFailed"
  | invalidKey _ => "InvalidKey"
  | invalidInput _ => "InvalidInput"

/-- What is said about a failure. -/
def CryptoError.message : CryptoError → String
  | keyGenerationFailed detail => "key generation failed: " ++ detail
  | encryptionFailed detail => "encryption failed: " ++ detail
  | decryptionFailed detail => "decryption failed: " ++ detail
  | encodingFailed detail => "key encoding failed: " ++ detail
  | invalidKey detail => "invalid key: " ++ detail
  | invalidInput detail => "invalid input: " ++ detail

end Gatehouse
