import Gatehouse.Crypto.P256
import Gatehouse.Crypto.Sha256

/-!
# ECDSA with P-256 and SHA-256

A signature is the pair `(r, s)`, each of 32 bytes, of FIPS 186-4. Both members have to lie between
1 and the group order; nothing else is asked of `s`, so that `n - s` verifies where `s` does.
-/

namespace Gatehouse

/-- A private key: a factor of the generator. -/
structure PrivateKey where
  scalar : Nat
  pos : 0 < scalar
  lt : scalar < P256.groupOrder
deriving DecidableEq

/-- A public key: a point of the curve. -/
structure PublicKey where
  point : P256.Point
deriving DecidableEq, Repr

namespace PrivateKey

/-- The private key with a given scalar, if the scalar is in range. -/
def ofScalar? (n : Nat) : Option PrivateKey :=
  if h : 0 < n ∧ n < P256.groupOrder then some ⟨n, h.1, h.2⟩ else none

/-- A private key from random bytes. -/
def ofSeed (seed : Bytes) : PrivateKey :=
  ⟨Bytes.toNat seed % (P256.groupOrder - 1) + 1, Nat.succ_pos _, by
    have := Nat.mod_lt (Bytes.toNat seed) (show 0 < P256.groupOrder - 1 by decide)
    omega⟩

/-- The public half. A multiple of the generator by a scalar in range is never neutral, so the
generator stands in for no key here. -/
def publicKey (key : PrivateKey) : PublicKey :=
  ⟨(P256.mulGenerator? key.scalar).getD P256.generator⟩

end PrivateKey

namespace Ecdsa

/-- The number that is signed for a message. -/
def digest (message : Bytes) : Nat :=
  Bytes.toNat (Sha256.hash message)

/-- The signature of a message, with random bytes for the ephemeral scalar. -/
def sign (key : PrivateKey) (seed message : Bytes) : Bytes :=
  let n := P256.groupOrder
  let k := PrivateKey.ofSeed seed
  let r := k.publicKey.point.x % n
  let s := P256.inverse n k.scalar * ((digest message + r * key.scalar) % n) % n
  Bytes.ofNat 32 r ++ Bytes.ofNat 32 s

/-- Whether a signature of a message belongs to a public key. -/
def verify (key : PublicKey) (message signature : Bytes) : Bool :=
  let n := P256.groupOrder
  let r := Bytes.toNat (signature.take 32)
  let s := Bytes.toNat (signature.drop 32)
  if signature.length = 64 ∧ 0 < r ∧ r < n ∧ 0 < s ∧ s < n then
    let w := P256.inverse n s
    let u := digest message * w % n
    let v := r * w % n
    let sum := (P256.Jacobian.mul u (.ofPoint P256.generator)).add
      (P256.Jacobian.mul v (.ofPoint key.point))
    match sum.toPoint? with
    | some q => q.x % n == r
    | none => false
  else false

end Ecdsa
end Gatehouse
