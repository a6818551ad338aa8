import Gatehouse.Proofs.Crypto.Compression
import Gatehouse.Proofs.Crypto.KeyEncoding

/-!
# The one encoding of a key

Keys are read back from what is written of them. Reading public keys is wider than writing them,
since a point may be compressed; but what is written depends on nothing but the key, so that two
encodings are of one key exactly if they are written alike again. No encoding begins with another
one, as no element does.
-/

namespace Gatehouse

open KeyEncoding

namespace KeyEncoding

/-! ## Subject public key infos -/

/-- What stands before the uncompressed point in a subject public key info. -/
def infoHead : Bytes :=
  [0x30, 0x59, 0x30, 0x13] ++ algorithm ++ [0x03, 0x42, 0x00]

theorem infoOf_of_length {octets : Bytes} (h : octets.length = 65) :
    infoOf octets = infoHead ++ octets := by
  have hbits : Der.write Der.bitString (0 :: octets) = 0x03 :: 0x42 :: 0x00 :: octets := by
    rw [Der.write, Der.Element.bytes]
    dsimp only
    rw [List.length_cons, h]
    rfl
  have hcontent : (algorithmElement.bytes ++ Der.write Der.bitString (0 :: octets)).length = 89 := by
    rw [hbits, List.length_append]
    simp only [List.length_cons, h]
    decide
  rw [infoOf, Der.write, Der.Element.bytes]
  dsimp only
  rw [hcontent, hbits]
  rfl

theorem length_le_of_ofOctets? {octets : Bytes} {q : P256.Point}
    (h : P256.Point.ofOctets? octets = some q) : octets.length ≤ 65 := by
  obtain ⟨-, rfl | ⟨tag, -, rfl⟩⟩ := P256.Point.eq_of_ofOctets? h
  · exact Nat.le_of_eq q.length_uncompressed
  · rw [List.length_cons, q.length_xBytes]
    decide

/-- A subject public key info is read exactly from the octets of a point in their wrapping. -/
theorem ofSubjectPublicKeyInfo?_eq_some_iff {bs : Bytes} {key : PublicKey} :
    ofSubjectPublicKeyInfo? bs = some key ↔
      ∃ octets, bs = infoOf octets ∧ P256.Point.ofOctets? octets = some key.point := by
  constructor
  · intro h
    rw [ofSubjectPublicKeyInfo?] at h
    split at h
    · rename_i identifier bits hsequence
      rw [Option.ite_none_right_eq_some] at h
      obtain ⟨⟨rfl, htag⟩, h⟩ := h
      obtain ⟨q, hq, rfl⟩ := Option.map_eq_some_iff.1 h
      obtain ⟨octets, hoctets, hq⟩ := Option.bind_eq_some_iff.1 hq
      -- The tag and the whole bits leave nothing open but the octets.
      have hbits : bits = ⟨Der.bitString, 0 :: octets⟩ := by
        rw [← htag, ← Der.wholeBits?_eq_some_iff.1 hoctets]
      refine ⟨octets, ?_, hq⟩
      rw [(Der.eq_of_sequence? hsequence).1, List.flatMap_cons, List.flatMap_singleton, hbits]
      rfl
    · cases h
  · rintro ⟨octets, rfl, h⟩
    rw [ofSubjectPublicKeyInfo?, sequence?_infoOf (length_le_of_ofOctets? h)]
    dsimp only
    rw [if_pos ⟨rfl, rfl⟩, Der.wholeBits?, Option.bind_some, h, Option.map_some]

end KeyEncoding

namespace PublicKey

variable [Wording]

theorem ofSubjectPublicKeyInfo_eq_ok_iff {bs : Bytes} {key : PublicKey} :
    ofSubjectPublicKeyInfo bs = .ok key ↔
      ∃ octets, bs = infoOf octets ∧ P256.Point.ofOctets? octets = some key.point := by
  rw [← ofSubjectPublicKeyInfo?_eq_some_iff, ofSubjectPublicKeyInfo]
  cases ofSubjectPublicKeyInfo? bs <;> simp

/-- What is read as a public key is what is written of it, or holds the first coordinate alone. -/
theorem eq_of_ofSubjectPublicKeyInfo {bs : Bytes} {key : PublicKey}
    (h : ofSubjectPublicKeyInfo bs = .ok key) :
    key.point.isValid = true ∧ (bs = key.toSubjectPublicKeyInfo ∨
      ∃ tag ∈ ([0x02, 0x03, 0x05] : Bytes), bs = infoOf (tag :: key.point.xBytes)) := by
  obtain ⟨octets, rfl, hoctets⟩ := ofSubjectPublicKeyInfo_eq_ok_iff.1 h
  obtain ⟨hvalid, rfl | ⟨tag, htag, rfl⟩⟩ := P256.Point.eq_of_ofOctets? hoctets
  · exact ⟨hvalid, .inl rfl⟩
  · exact ⟨hvalid, .inr ⟨tag, htag, rfl⟩⟩

/-- Keys are equal if they are written alike. -/
theorem eq_of_toSubjectPublicKeyInfo_eq {key key' : PublicKey} (h : key.point.isValid = true)
    (h' : key'.point.isValid = true)
    (heq : key.toSubjectPublicKeyInfo = key'.toSubjectPublicKeyInfo) : key = key' := by
  have hread := ofSubjectPublicKeyInfo_toSubjectPublicKeyInfo h
  rw [heq, ofSubjectPublicKeyInfo_toSubjectPublicKeyInfo h'] at hread
  exact (Except.ok.inj hread).symm

end PublicKey

/-! ## No encoding begins with another -/

/-- A reader of sequences that takes two strings, one of which begins with the other, takes one. -/
theorem Der.eq_none_of_begins {α : Type} {read : Bytes → Option α}
    (hread : ∀ bs, (read bs).isSome → (Der.sequence? bs).isSome) {bs bs' : Bytes}
    (h : (read bs).isSome) (hne : bs' ≠ bs) (hp : bs <+: bs' ∨ bs' <+: bs) : read bs' = none := by
  cases hbs' : read bs' with
  | none => rfl
  | some a =>
    have hsome := hread bs h
    have hsome' := hread bs' (by rw [hbs', Option.isSome_some])
    rcases hp with hp | hp
    · exact absurd (Der.eq_of_sequence?_begins hsome hsome' hp).symm hne
    · exact absurd (Der.eq_of_sequence?_begins hsome' hsome hp) hne

theorem KeyEncoding.isSome_sequence?_of_info {bs : Bytes}
    (h : (ofSubjectPublicKeyInfo? bs).isSome) : (Der.sequence? bs).isSome := by
  rw [ofSubjectPublicKeyInfo?] at h
  cases hsequence : Der.sequence? bs with
  | none =>
    rw [hsequence] at h
    cases h
  | some es => rfl

theorem KeyEncoding.isSome_sequence?_of_pkcs8 {bs : Bytes} (h : (ofPkcs8? bs).isSome) :
    (Der.sequence? bs).isSome := by
  rw [ofPkcs8?] at h
  cases hsequence : Der.sequence? bs with
  | none =>
    rw [hsequence] at h
    cases h
  | some es => rfl

namespace KeyEncoding

open PublicKey (ofSubjectPublicKeyInfo ofSubjectPublicKeyInfo_eq_ok_iff)

/-! ## Keys and their encodings -/

/-- **Encodings are canonical.** A private key is read back from its PKCS#8 structure, and its
public half is a point of the curve. What is written of such a point ends in its coordinates, each
in 32 bytes; it is read back, and so is the compressed form. Whatever is read as a public key is
what is written of it, or holds the first coordinate alone; two encodings are of one key exactly if
they are written alike again. Nothing that begins with an encoding, or that an encoding begins with,
is another one. -/
theorem encodings_canonical [Wording] :
    (∀ key : PrivateKey, PrivateKey.ofPkcs8 key.toPkcs8 = .ok key ∧
        key.publicKey.point.isValid = true) ∧
      (∀ key : PublicKey, key.point.isValid = true →
        key.toSubjectPublicKeyInfo =
            infoHead ++ 0x04 :: (key.point.xBytes ++ key.point.yBytes) ∧
          key.toSubjectPublicKeyInfo.length = 91 ∧
          key.point.xBytes.length = 32 ∧ key.point.yBytes.length = 32 ∧
          Bytes.toNat key.point.xBytes = key.point.x ∧
          Bytes.toNat key.point.yBytes = key.point.y ∧
          ofSubjectPublicKeyInfo key.toSubjectPublicKeyInfo = .ok key ∧
          ofSubjectPublicKeyInfo (infoOf key.point.compressed) = .ok key) ∧
      (∀ bs key, ofSubjectPublicKeyInfo bs = .ok key → key.point.isValid = true ∧
        (bs = key.toSubjectPublicKeyInfo ∨
          ∃ tag ∈ ([0x02, 0x03, 0x05] : Bytes), bs = infoOf (tag :: key.point.xBytes))) ∧
      (∀ bs bs' key key', ofSubjectPublicKeyInfo bs = .ok key →
        ofSubjectPublicKeyInfo bs' = .ok key' →
        (key = key' ↔ key.toSubjectPublicKeyInfo = key'.toSubjectPublicKeyInfo)) ∧
      (∀ bs bs' key, ofSubjectPublicKeyInfo bs = .ok key → bs' ≠ bs →
        (bs <+: bs' ∨ bs' <+: bs) →
        ofSubjectPublicKeyInfo bs' = .error (.invalidKey ("spki" ++ Wording.publicKey bs'))) ∧
      ∀ bs bs' key, PrivateKey.ofPkcs8 bs = .ok key → bs' ≠ bs → (bs <+: bs' ∨ bs' <+: bs) →
        PrivateKey.ofPkcs8 bs' = .error (.invalidKey ("pkcs8" ++ Wording.privateKey bs')) := by
  refine ⟨?_, ?_, ?_, ?_, ?_, ?_⟩
  · exact fun key => ⟨key.ofPkcs8_toPkcs8, P256.isValid_publicKey key⟩
  · intro key hvalid
    have hbytes : key.toSubjectPublicKeyInfo = infoHead ++ key.point.uncompressed :=
      infoOf_of_length key.point.length_uncompressed
    obtain ⟨hx, hy⟩ := P256.Point.toNat_coordinates hvalid
    have hlength : key.toSubjectPublicKeyInfo.length = 91 := by
      rw [hbytes, List.length_append, key.point.length_uncompressed]
      decide
    have hcompressed : ofSubjectPublicKeyInfo (infoOf key.point.compressed) = .ok key :=
      ofSubjectPublicKeyInfo_eq_ok_iff.2 ⟨_, rfl, P256.Point.ofOctets?_compressed hvalid⟩
    exact ⟨hbytes, hlength, key.point.length_xBytes, key.point.length_yBytes, hx, hy,
      PublicKey.ofSubjectPublicKeyInfo_toSubjectPublicKeyInfo hvalid, hcompressed⟩
  · exact fun bs key h => PublicKey.eq_of_ofSubjectPublicKeyInfo h
  · intro bs bs' key key' h h'
    have hvalid := (PublicKey.eq_of_ofSubjectPublicKeyInfo h).1
    have hvalid' := (PublicKey.eq_of_ofSubjectPublicKeyInfo h').1
    exact ⟨fun heq => heq ▸ rfl, PublicKey.eq_of_toSubjectPublicKeyInfo_eq hvalid hvalid'⟩
  · intro bs bs' key h hne hp
    have hread : (ofSubjectPublicKeyInfo? bs).isSome := by
      rw [ofSubjectPublicKeyInfo?_eq_some_iff.2 (ofSubjectPublicKeyInfo_eq_ok_iff.1 h)]
      rfl
    rw [ofSubjectPublicKeyInfo,
      Der.eq_none_of_begins (fun _ => isSome_sequence?_of_info) hread hne hp]
  · intro bs bs' key h hne hp
    have hread : (ofPkcs8? bs).isSome := by
      rw [PrivateKey.ofPkcs8] at h
      cases hkey : ofPkcs8? bs with
      | none =>
        rw [hkey] at h
        cases h
      | some k => rfl
    rw [PrivateKey.ofPkcs8,
      Der.eq_none_of_begins (fun _ => isSome_sequence?_of_pkcs8) hread hne hp]

/-- A point of the curve whose first coordinate is nearly all zeros. -/
def samplePoint : P256.Point :=
  ⟨5, 0x459243b9aa581806fe913bce99817ade11ca503c64d9a3c533415c083248fbcc⟩

/-- Its compressed form is an encoding with 59 bytes; one byte more or less makes it none. -/
theorem encodings_canonical_compressed :
    ofSubjectPublicKeyInfo (infoOf (0x02 :: (List.replicate 31 0 ++ [5]))) = .ok ⟨samplePoint⟩ ∧
      (PublicKey.mk samplePoint).toSubjectPublicKeyInfo.length = 91 ∧
      ofSubjectPublicKeyInfo (infoOf (0x02 :: (List.replicate 31 0 ++ [5])) ++ [0]) =
        .error (.invalidKey "spki") ∧
      ofSubjectPublicKeyInfo (infoOf (0x02 :: (List.replicate 31 0 ++ [5]))).dropLast =
        .error (.invalidKey "spki") := by
  obtain ⟨-, hvalid, -, -, hprefix, -⟩ := encodings_canonical
  obtain ⟨-, hlength, -, -, -, -, -, hread⟩ := hvalid ⟨samplePoint⟩ (by decide +kernel)
  have hcompressed : samplePoint.compressed = 0x02 :: (List.replicate 31 0 ++ [5]) := by
    decide +kernel
  rw [hcompressed] at hread
  refine ⟨hread, hlength, ?_, ?_⟩
  · exact hprefix _ _ _ hread (by simp) (.inl (List.prefix_append _ _))
  · refine hprefix _ _ _ hread (by decide +kernel) (.inr (List.dropLast_prefix _))

end KeyEncoding
end Gatehouse
