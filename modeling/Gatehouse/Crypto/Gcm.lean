import Gatehouse.Crypto.Aes

/-!
# AES-256-GCM

Authenticated encryption in Galois/counter mode with nonces of twelve bytes and tags of sixteen.
Decryption recomputes the tag over the ciphertext and gives the plaintext only when it agrees.
-/

namespace Gatehouse.Gcm

/-- Number of bytes in a nonce. -/
def nonceSize : Nat := 12

/-- Number of bytes in a tag. -/
def tagSize : Nat := 16

/-! ## The hash -/

/-- One step of the product: the sum so far and the multiple of the second factor, both as
numbers whose highest bit is the coefficient of degree zero. -/
def productStep (bit : Bool) (p : Nat × Nat) : Nat × Nat :=
  let z := if bit then p.1 ^^^ p.2 else p.1
  let v := if p.2 % 2 = 1 then (p.2 / 2) ^^^ (0xe1 <<< 120) else p.2 / 2
  (z, v)

/-- The sum after the `n` lowest degrees not yet treated. -/
def productFrom (x : Nat) : (n : Nat) → Nat × Nat → Nat
  | 0, p => p.1
  | n + 1, p => productFrom x n (productStep (x.testBit n) p)

/-- The product in the field of `2 ^ 128` elements. -/
def product (x y : Nat) : Nat :=
  productFrom x 128 (0, y)

/-- A byte string filled with zeros to whole blocks. -/
def padded (bs : Bytes) : Bytes :=
  bs ++ List.replicate ((16 - bs.length % 16) % 16) 0

/-- The hash of `n` blocks after the value `y`. -/
def hashBlocks (h : Nat) : (n : Nat) → (y : Nat) → Bytes → Nat
  | 0, y, _ => y
  | n + 1, y, bs => hashBlocks h n (product (y ^^^ Bytes.toNat (bs.take 16)) h) (bs.drop 16)

/-- The authenticated input: additional data, ciphertext and the bit lengths of both. -/
def authenticated (aad ciphertext : Bytes) : Bytes :=
  padded aad ++ padded ciphertext ++ Bytes.ofNat 8 (8 * aad.length) ++
    Bytes.ofNat 8 (8 * ciphertext.length)

/-! ## Counter mode -/

/-- The counter block with number `n`. -/
def counterBlock (nonce : Bytes) (n : Nat) : Bytes :=
  nonce ++ Bytes.ofNat 4 n

/-- The first `n` blocks of the key stream from the counter `i` on. -/
def keyStream (keys : List Bytes) (nonce : Bytes) : (n i : Nat) → Bytes
  | 0, _ => []
  | n + 1, i => Aes.encryptWith keys (counterBlock nonce i) ++ keyStream keys nonce n (i + 1)

/-- A byte string under the key stream, which takes it back when applied again. -/
def crypt (keys : List Bytes) (nonce bs : Bytes) : Bytes :=
  Bytes.xor bs (keyStream keys nonce ((bs.length + 15) / 16) 2)

/-- The tag of a ciphertext. -/
def tag (keys : List Bytes) (nonce aad ciphertext : Bytes) : Bytes :=
  let h := Bytes.toNat (Aes.encryptWith keys (List.replicate 16 0))
  let input := authenticated aad ciphertext
  Bytes.xor (Bytes.ofNat 16 (hashBlocks h (input.length / 16) 0 input))
    (Aes.encryptWith keys (counterBlock nonce 1))

/-- The ciphertext and tag of a plaintext. -/
def encrypt (key nonce aad plaintext : Bytes) : Bytes :=
  let keys := Aes.roundKeys key
  let ciphertext := crypt keys nonce plaintext
  ciphertext ++ tag keys nonce aad ciphertext

/-- The plaintext of a ciphertext with its tag; `none` when the tag is wrong or missing. -/
def decrypt? (key nonce aad sealed : Bytes) : Option Bytes :=
  if sealed.length < tagSize then none
  else
    let keys := Aes.roundKeys key
    let ciphertext := sealed.take (sealed.length - tagSize)
    if tag keys nonce aad ciphertext = sealed.drop (sealed.length - tagSize) then
      some (crypt keys nonce ciphertext)
    else none

end Gatehouse.Gcm
