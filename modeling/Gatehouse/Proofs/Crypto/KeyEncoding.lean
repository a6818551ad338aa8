import Gatehouse.Crypto.KeyEncoding
import Gatehouse.Proofs.Crypto.Curve
import Gatehouse.Proofs.Crypto.Der

/-!
# Keys are read back from their encodings

A private key is read back from its PKCS#8 structure, a public key from its subject public key info
if it is a point of the curve, as the public half of every private key is.
-/

namespace Gatehouse

open KeyEncoding

/-! ## Points -/

namespace P256.Point

theorem length_uncompressed (q : Point) : q.uncompressed.length = 65 := by
  simp [uncompressed, xBytes, yBytes, coordinateSize]

/-- A point of the curve is read back from its uncompressed form. -/
theorem ofOctets?_uncompressed {q : Point} (h : q.isValid = true) :
    ofOctets? q.uncompressed = some q := by
  have hrange : fieldOrder ≤ 256 ^ coordinateSize := by decide
  have hx : q.x < 256 ^ coordinateSize := by
    simp only [isValid, Bool.and_eq_true, decide_eq_true_eq] at h
    omega
  have hy : q.y < 256 ^ coordinateSize := by
    simp only [isValid, Bool.and_eq_true, decide_eq_true_eq] at h
    omega
  have hlength : (q.xBytes ++ q.yBytes).length = 2 * coordinateSize := by
    simp [xBytes, yBytes, two_mul]
  have htake : (q.xBytes ++ q.yBytes).take coordinateSize = q.xBytes :=
    List.take_left' (Bytes.length_ofNat _ _)
  have hdrop : (q.xBytes ++ q.yBytes).drop coordinateSize = q.yBytes :=
    List.drop_left' (Bytes.length_ofNat _ _)
  rw [uncompressed, ofOctets?, if_pos rfl, if_pos hlength, htake, hdrop, xBytes, yBytes,
    Bytes.toNat_ofNat hx, Bytes.toNat_ofNat hy]
  exact if_pos h

end P256.Point

/-! ## Public keys -/

theorem readable_algorithmElement : algorithmElement.Readable :=
  ⟨by decide, by decide⟩

/-- The bit string of a point. -/
def pointElement (q : P256.Point) : Der.Element := ⟨Der.bitString, 0 :: q.uncompressed⟩

theorem readable_pointElement (q : P256.Point) : (pointElement q).Readable := by
  refine ⟨rfl, ?_⟩
  rw [pointElement, List.length_cons, q.length_uncompressed]
  decide

theorem length_bytes_pointElement (q : P256.Point) : (pointElement q).bytes.length = 68 :=
  Der.length_bytes_of_length_eq (by rw [pointElement, List.length_cons, q.length_uncompressed])
    (by decide)

namespace KeyEncoding

/-- The subject public key info with the octets of a point. -/
def infoOf (octets : Bytes) : Bytes :=
  Der.write Der.sequence (algorithmElement.bytes ++ Der.write Der.bitString (0 :: octets))

/-- The two elements of a subject public key info are read back. Octets of a point are few, so every
length around them is short. -/
theorem sequence?_infoOf {octets : Bytes} (h : octets.length ≤ 65) :
    Der.sequence? (infoOf octets) = some [algorithmElement, ⟨Der.bitString, 0 :: octets⟩] := by
  have hcontent : (0 :: octets).length < 2 ^ 32 := by
    rw [List.length_cons]
    omega
  have hbits : (Der.Element.mk Der.bitString (0 :: octets)).Readable := ⟨rfl, hcontent⟩
  have hall : ∀ e ∈ [algorithmElement, ⟨Der.bitString, 0 :: octets⟩], e.Readable :=
    List.forall_mem_cons.2 ⟨readable_algorithmElement, List.forall_mem_singleton.2 hbits⟩
  have hlength : ([algorithmElement, ⟨Der.bitString, 0 :: octets⟩].flatMap
      Der.Element.bytes).length < 2 ^ 32 := by
    have hshort : (Der.Element.mk Der.bitString (0 :: octets)).bytes.length =
        octets.length + 1 + 2 := Der.length_bytes_of_length_eq rfl (by omega)
    have halgorithm : algorithmElement.bytes.length = 21 := by decide
    rw [List.flatMap_cons, List.flatMap_singleton, List.length_append, hshort, halgorithm]
    omega
  have hread := Der.sequence?_write hall hlength
  rwa [List.flatMap_cons, List.flatMap_singleton] at hread

end KeyEncoding

namespace PublicKey

/-- A public key that is a point of the curve is read back from its subject public key info. -/
theorem ofSubjectPublicKeyInfo_toSubjectPublicKeyInfo [Wording] {key : PublicKey}
    (h : key.point.isValid = true) :
    ofSubjectPublicKeyInfo key.toSubjectPublicKeyInfo = .ok key := by
  have hread := sequence?_infoOf (Nat.le_of_eq key.point.length_uncompressed)
  change Der.sequence? key.toSubjectPublicKeyInfo = _ at hread
  rw [ofSubjectPublicKeyInfo, ofSubjectPublicKeyInfo?, hread]
  simp only [and_self, if_true, Der.wholeBits?, Option.bind_some,
    P256.Point.ofOctets?_uncompressed h, Option.map_some]

end PublicKey

/-! ## Private keys -/

namespace PrivateKey

variable (key : PrivateKey)

theorem length_scalarBytes : key.scalarBytes.length = 32 :=
  Bytes.length_ofNat _ _

theorem privateKeyOfBytes?_scalarBytes : privateKeyOfBytes? key.scalarBytes = some key := by
  have hrange : P256.groupOrder ≤ 256 ^ scalarSize := by decide
  have hlt : key.scalar < 256 ^ scalarSize := Nat.lt_of_lt_of_le key.lt hrange
  have hsize : minScalarSize ≤ key.scalarBytes.length ∧ key.scalarBytes.length ≤ scalarSize := by
    rw [length_scalarBytes]
    decide
  rw [privateKeyOfBytes?, if_pos hsize, scalarBytes, Bytes.toNat_ofNat hlt, ofScalar?,
    dif_pos ⟨key.pos, key.lt⟩]

/-- The element of the public point beside the scalar. -/
def embeddedPoint : Der.Element := ⟨0xa1, (pointElement key.publicKey.point).bytes⟩

theorem length_content_embeddedPoint : key.embeddedPoint.content.length = 68 := by
  rw [embeddedPoint, length_bytes_pointElement]

theorem embeds_embeddedPoint : embeds key (some key.embeddedPoint) = true := by
  have hsingle := Der.single?_bytes (readable_pointElement key.publicKey.point)
  rw [embeds, embeddedPoint]
  dsimp only
  rw [hsingle]
  simp only [pointElement, Der.wholeBits?, beq_self_eq_true, Bool.true_or, Bool.and_self]

/-- The elements of the elliptic-curve private key structure. -/
def ecElements : List Der.Element :=
  [⟨Der.integer, [1]⟩, ⟨Der.octetString, key.scalarBytes⟩, key.embeddedPoint]

theorem readable_ecElements : ∀ e ∈ key.ecElements, e.Readable := by
  have hscalar : (Der.Element.mk Der.octetString key.scalarBytes).Readable := by
    refine ⟨rfl, ?_⟩
    rw [length_scalarBytes]
    decide
  have hpoint : key.embeddedPoint.Readable := by
    have hknown : Der.isKnownTag 0xa1 = true := by decide
    refine ⟨hknown, ?_⟩
    rw [length_content_embeddedPoint]
    decide
  refine List.forall_mem_cons.2 ⟨⟨rfl, by decide⟩, ?_⟩
  exact List.forall_mem_cons.2 ⟨hscalar, List.forall_mem_singleton.2 hpoint⟩

theorem flatMap_ecElements : key.ecElements.flatMap Der.Element.bytes =
    Der.write Der.integer [1] ++ Der.write Der.octetString key.scalarBytes ++
      Der.write 0xa1 (Der.write Der.bitString (0 :: key.publicKey.point.uncompressed)) := by
  rw [ecElements, List.flatMap_cons, List.flatMap_cons, List.flatMap_singleton, List.append_assoc]
  rfl

theorem length_flatMap_ecElements :
    (key.ecElements.flatMap Der.Element.bytes).length = 107 := by
  have hpoint : key.embeddedPoint.bytes.length = 70 :=
    Der.length_bytes_of_length_eq key.length_content_embeddedPoint (by decide)
  have hscalar : (Der.Element.mk Der.octetString key.scalarBytes).bytes.length = 34 := by
    refine Der.length_bytes_of_length_eq (n := 32) ?_ (by decide)
    rw [length_scalarBytes]
  rw [ecElements, List.flatMap_cons, List.flatMap_cons, List.flatMap_singleton, List.length_append,
    List.length_append, hpoint, hscalar]
  rfl

theorem sequence?_toEcPrivateKey : Der.sequence? key.toEcPrivateKey = some key.ecElements := by
  have hlength : (key.ecElements.flatMap Der.Element.bytes).length < 2 ^ 32 := by
    rw [length_flatMap_ecElements]
    decide
  rw [toEcPrivateKey, ← flatMap_ecElements]
  exact Der.sequence?_write key.readable_ecElements hlength

theorem ofEcPrivateKey?_toEcPrivateKey : ofEcPrivateKey? key.toEcPrivateKey = some key := by
  -- The curve is left out, since the algorithm names it, and the point is the element behind.
  have hcontext : Der.contextNumber? 0xa1 = some 1 := by decide
  have hnumber : Der.contextNumber? key.embeddedPoint.tag = some 1 := hcontext
  have hcurve : Der.takeContext 0 [key.embeddedPoint] = (none, [key.embeddedPoint]) := by
    rw [Der.takeContext, hnumber]
    rfl
  have hpoint : Der.takeContext 1 [key.embeddedPoint] = (some key.embeddedPoint, []) := by
    rw [Der.takeContext, hnumber]
    rfl
  rw [ofEcPrivateKey?, sequence?_toEcPrivateKey, ecElements]
  dsimp only
  rw [if_pos ⟨rfl, rfl⟩, hcurve]
  dsimp only
  rw [hpoint, privateKeyOfBytes?_scalarBytes]
  exact if_pos ⟨rfl, key.embeds_embeddedPoint, rfl⟩

/-- A private key is read back from its PKCS#8 structure. -/
theorem ofPkcs8_toPkcs8 [Wording] : ofPkcs8 key.toPkcs8 = .ok key := by
  have hec : key.toEcPrivateKey.length = 109 := by
    rw [toEcPrivateKey, ← flatMap_ecElements, Der.write]
    exact Der.length_bytes_of_length_eq key.length_flatMap_ecElements (by decide)
  have hinner : (Der.Element.mk Der.octetString key.toEcPrivateKey).Readable := by
    refine ⟨rfl, ?_⟩
    rw [hec]
    decide
  have hall : ∀ e ∈ [versionOf false, algorithmElement, ⟨Der.octetString, key.toEcPrivateKey⟩],
      e.Readable := by
    refine List.forall_mem_cons.2 ⟨⟨rfl, by decide⟩, ?_⟩
    exact List.forall_mem_cons.2 ⟨readable_algorithmElement, List.forall_mem_singleton.2 hinner⟩
  have hlength : ([versionOf false, algorithmElement,
      ⟨Der.octetString, key.toEcPrivateKey⟩].flatMap Der.Element.bytes).length < 2 ^ 32 := by
    have hwrapped : (Der.Element.mk Der.octetString key.toEcPrivateKey).bytes.length = 111 := by
      refine Der.length_bytes_of_length_eq (n := 109) ?_ (by decide)
      rw [hec]
    rw [List.flatMap_cons, List.flatMap_cons, List.flatMap_singleton, List.length_append,
      List.length_append, hwrapped]
    decide
  have hread := Der.sequence?_write hall hlength
  rw [List.flatMap_cons, List.flatMap_cons, List.flatMap_singleton, ← List.append_assoc] at hread
  change Der.sequence? key.toPkcs8 = _ at hread
  have hrest : Der.takeContext 1 [] = (none, []) := rfl
  rw [ofPkcs8, ofPkcs8?, hread]
  dsimp only
  rw [hrest]
  dsimp only
  rw [if_pos ⟨rfl, rfl, rfl, rfl, rfl⟩, ofEcPrivateKey?_toEcPrivateKey]

end PrivateKey

end Gatehouse
