import Gatehouse.Crypto.Aead
import Gatehouse.Kms.Error

/-!
# Key protectors

A key protector encrypts and decrypts payloads with a key that stays with it. What it remembers
between requests is the state `σ`. Besides the clients of key management services there is a
protector inside the process, with a key of its own, and one that is never available.
-/

namespace Gatehouse

/-- A service that encrypts and decrypts payloads. -/
structure KeyProtector (σ : Type) where
  encrypt : Bytes → σ → Except KmsError Bytes × σ
  decrypt : Bytes → σ → Except KmsError Bytes × σ

/-- How many requests a protector inside the process has fulfilled. -/
structure LocalCalls where
  encrypts : Nat := 0
  decrypts : Nat := 0
deriving DecidableEq, Repr

/-- A protector inside the process. -/
structure LocalProtector where
  /-- Its name in failures. -/
  name : String := "local"
  key : SymmetricKey
  /-- What is authenticated along with each payload. -/
  aad : Bytes := Bytes.ofAscii "portier-local-kms"
  /-- The nonce of the encryption with a given number. -/
  nonce : Nat → Bytes

namespace LocalProtector

/-- The failure of an operation. -/
def failure (p : LocalProtector) (operation : String) (e : CryptoError) : KmsError :=
  .backend p.name operation e.message

/-- The key protector; it counts the requests that it fulfils. -/
def protector (p : LocalProtector) : KeyProtector LocalCalls where
  encrypt plaintext calls :=
    (.ok (Aead.encrypt p.key (p.nonce calls.encrypts) plaintext p.aad),
      { calls with encrypts := calls.encrypts + 1 })
  decrypt blob calls :=
    match Aead.decrypt p.key blob p.aad with
    | .ok plaintext => (.ok plaintext, { calls with decrypts := calls.decrypts + 1 })
    | .error e => (.error (p.failure "decrypt" e), calls)

end LocalProtector

/-- A protector that is never available. -/
def KeyProtector.unavailable (σ : Type) : KeyProtector σ where
  encrypt _ s := (.error (.backend "failing" "encrypt" "backend unavailable"), s)
  decrypt _ s := (.error (.backend "failing" "decrypt" "backend unavailable"), s)

end Gatehouse
