import Gatehouse.Crypto.Der
import Gatehouse.Crypto.Ecdsa
import Gatehouse.Crypto.Error
import Gatehouse.Wording

/-!
# Encodings of signing keys

Private keys are exchanged in PKCS#8 form with the public point inside, public keys as a subject
public key info with the point uncompressed. Reading takes every distinguished encoding of a P-256
key; writing gives the one canonical encoding.
-/

namespace Gatehouse

namespace KeyEncoding

/-- The object identifier of the curve, with its tag and length. -/
def curveId : Bytes := [0x06, 0x08, 0x2a, 0x86, 0x48, 0xce, 0x3d, 0x03, 0x01, 0x07]

/-- The content of the algorithm identifier: an elliptic-curve public key on the curve. -/
def algorithm : Bytes := [0x06, 0x07, 0x2a, 0x86, 0x48, 0xce, 0x3d, 0x02, 0x01] ++ curveId

/-- The algorithm identifier. -/
def algorithmElement : Der.Element := ⟨Der.sequence, algorithm⟩

/-- Number of bytes of a scalar. -/
def scalarSize : Nat := 32

/-- The fewest bytes of a scalar that reading fills up with leading zeros. -/
def minScalarSize : Nat := 24

/-- The private key that the bytes of a scalar give. -/
def privateKeyOfBytes? (bs : Bytes) : Option PrivateKey :=
  if minScalarSize ≤ bs.length ∧ bs.length ≤ scalarSize then
    PrivateKey.ofScalar? (Bytes.toNat bs)
  else none

/-- Whether an element that names the curve, where there is one, names this curve. -/
def namesCurve : Option Der.Element → Bool
  | none => true
  | some e => e.tag == 0xa0 && e.content == curveId

/-- Whether an embedded public key, where there is one, belongs to a private key. -/
def embeds (key : PrivateKey) : Option Der.Element → Bool
  | none => true
  | some e =>
    match Der.single? e.content with
    | some bits =>
      e.tag == 0xa1 && bits.tag == Der.bitString &&
        match Der.wholeBits? bits.content with
        | some octets =>
          octets == key.publicKey.point.uncompressed || octets == key.publicKey.point.compressed
        | none => false
    | none => false

/-- The key in an elliptic-curve private key structure of version 1. -/
def ofEcPrivateKey? (bs : Bytes) : Option PrivateKey :=
  match Der.sequence? bs with
  | some (version :: secret :: rest) =>
    if version = ⟨Der.integer, [1]⟩ ∧ secret.tag = Der.octetString then
      let (curve, rest) := Der.takeContext 0 rest
      let (point, rest) := Der.takeContext 1 rest
      match privateKeyOfBytes? secret.content with
      | some key =>
        if namesCurve curve ∧ embeds key point ∧ rest.isEmpty then some key else none
      | none => none
    else none
  | _ => none

/-- Whether the public key beside the private key structure has the right form: a bit string of
whole bytes. -/
def isOuterPoint (e : Der.Element) : Bool :=
  e.tag == 0x81 && (Der.wholeBits? e.content).isSome

/-- Whether a further field wraps exactly one element. -/
def isExtension (e : Der.Element) : Bool :=
  (Der.contextNumber? e.tag).isSome && Der.isConstructed e.tag && (Der.single? e.content).isSome

/-- The version of a structure with a public key inside, and of one without. -/
def versionOf (hasPoint : Bool) : Der.Element :=
  ⟨Der.integer, [if hasPoint then 1 else 0]⟩

/-- The key in a PKCS#8 structure. -/
def ofPkcs8? (bs : Bytes) : Option PrivateKey :=
  match Der.sequence? bs with
  | some (version :: identifier :: inner :: rest) =>
    let (point, rest) := Der.takeContext 1 rest
    if version = versionOf point.isSome ∧ identifier = algorithmElement ∧
        inner.tag = Der.octetString ∧ point.all isOuterPoint ∧ rest.all isExtension then
      ofEcPrivateKey? inner.content
    else none
  | _ => none

/-- The point in a subject public key info. -/
def ofSubjectPublicKeyInfo? (bs : Bytes) : Option PublicKey :=
  match Der.sequence? bs with
  | some [identifier, bits] =>
    if identifier = algorithmElement ∧ bits.tag = Der.bitString then
      ((Der.wholeBits? bits.content).bind P256.Point.ofOctets?).map fun q => ⟨q⟩
    else none
  | _ => none

end KeyEncoding

namespace PrivateKey

/-- The bytes of the scalar. -/
def scalarBytes (key : PrivateKey) : Bytes :=
  Bytes.ofNat KeyEncoding.scalarSize key.scalar

/-- The elliptic-curve private key structure with the public point. -/
def toEcPrivateKey (key : PrivateKey) : Bytes :=
  Der.write Der.sequence (Der.write Der.integer [1] ++ Der.write Der.octetString key.scalarBytes ++
    Der.write 0xa1 (Der.write Der.bitString (0 :: key.publicKey.point.uncompressed)))

/-- The PKCS#8 structure of a private key. -/
def toPkcs8 (key : PrivateKey) : Bytes :=
  Der.write Der.sequence ((KeyEncoding.versionOf false).bytes ++
    KeyEncoding.algorithmElement.bytes ++ Der.write Der.octetString key.toEcPrivateKey)

/-- The private key in a PKCS#8 structure. -/
def ofPkcs8 [Wording] (bs : Bytes) : Except CryptoError PrivateKey :=
  match KeyEncoding.ofPkcs8? bs with
  | some key => .ok key
  | none => .error (.invalidKey ("pkcs8" ++ Wording.privateKey bs))

end PrivateKey

namespace PublicKey

/-- The subject public key info of a public key. -/
def toSubjectPublicKeyInfo (key : PublicKey) : Bytes :=
  Der.write Der.sequence (KeyEncoding.algorithmElement.bytes ++
    Der.write Der.bitString (0 :: key.point.uncompressed))

/-- The public key in a subject public key info. -/
def ofSubjectPublicKeyInfo [Wording] (bs : Bytes) : Except CryptoError PublicKey :=
  match KeyEncoding.ofSubjectPublicKeyInfo? bs with
  | some key => .ok key
  | none => .error (.invalidKey ("spki" ++ Wording.publicKey bs))

end PublicKey
end Gatehouse
