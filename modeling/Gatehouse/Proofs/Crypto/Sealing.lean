import Gatehouse.Kms.Protector
import Gatehouse.Proofs.Crypto.Gcm

/-!
# Opening what has been sealed

A blob is opened exactly if it is what sealing makes of some plaintext with the nonce that the blob
begins with. Every other blob is refused, in one of two ways that its length decides, and a
protector inside the process passes the refusal on without counting it.
-/

namespace Gatehouse

namespace Aead

variable {key : SymmetricKey} {aad : Bytes}

/-- A blob is opened exactly if it is its own nonce and what that nonce makes of the plaintext. -/
theorem decrypt_eq_ok_iff {blob plaintext : Bytes} :
    decrypt key blob aad = .ok plaintext ↔
      28 ≤ blob.length ∧ blob = encrypt key (blob.take 12) plaintext aad := by
  have hsplit : blob = encrypt key (blob.take 12) plaintext aad ↔
      blob.drop 12 = Gcm.encrypt key.bytes (blob.take 12) aad plaintext := by
    rw [encrypt]
    constructor
    · intro h
      have hparts : blob.take 12 ++ blob.drop 12 =
          blob.take 12 ++ Gcm.encrypt key.bytes (blob.take 12) aad plaintext := by
        rw [List.take_append_drop]
        exact h
      exact List.append_cancel_left hparts
    · intro h
      rw [← h, List.take_append_drop]
  have hsize : Gcm.nonceSize + Gcm.tagSize = 28 := rfl
  have htwelve : Gcm.nonceSize = 12 := rfl
  rw [hsplit, decrypt, hsize, htwelve]
  by_cases hshort : blob.length < 28
  · rw [if_pos hshort]
    constructor
    · intro h
      cases h
    · rintro ⟨hlong, -⟩
      omega
  · have hnonce : (blob.take 12).length = Gcm.nonceSize := by
      rw [List.length_take]
      exact Nat.min_eq_left (by omega)
    rw [if_neg hshort, ← Gcm.decrypt?_eq_some_iff key.length_bytes hnonce]
    cases Gcm.decrypt? key.bytes (blob.take 12) aad (blob.drop 12) with
    | none => simp
    | some p => simp; omega

theorem decrypt_of_short {blob : Bytes} (h : blob.length < 28) :
    decrypt key blob aad = .error (.invalidInput "ciphertext too short") :=
  if_pos h

/-- A blob that is long enough is refused in one way only. -/
theorem decrypt_of_refused {blob : Bytes} (hlong : 28 ≤ blob.length)
    (h : ∀ plaintext, decrypt key blob aad ≠ .ok plaintext) :
    decrypt key blob aad = .error (.decryptionFailed "authentication failed") := by
  have hshort : ¬blob.length < Gcm.nonceSize + Gcm.tagSize := Nat.not_lt.2 hlong
  rw [decrypt, if_neg hshort] at h ⊢
  split
  · rename_i plaintext hplaintext
    rw [hplaintext] at h
    exact absurd rfl (h plaintext)
  · rfl

theorem length_encrypt {nonce : Bytes} (hnonce : nonce.length = 12) (plaintext : Bytes) :
    (encrypt key nonce plaintext aad).length = plaintext.length + 28 := by
  rw [encrypt, List.length_append, Gcm.length_encrypt key.length_bytes hnonce, hnonce,
    Gcm.tagSize]
  omega

/-- What has been sealed is opened. -/
theorem decrypt_encrypt {nonce : Bytes} (hnonce : nonce.length = 12) (plaintext : Bytes) :
    decrypt key (encrypt key nonce plaintext aad) aad = .ok plaintext := by
  have htake : (encrypt key nonce plaintext aad).take 12 = nonce := List.take_left' hnonce
  have hlong : 28 ≤ (encrypt key nonce plaintext aad).length := by
    rw [length_encrypt hnonce]
    omega
  exact decrypt_eq_ok_iff.2 ⟨hlong, by rw [htake]⟩

/-- Before the tag stand the nonce and the plaintext under the key stream. -/
theorem take_encrypt {nonce : Bytes} (hnonce : nonce.length = 12) (plaintext aad : Bytes) :
    (encrypt key nonce plaintext aad).take (plaintext.length + 12) =
      nonce ++ Gcm.crypt (Aes.roundKeys key.bytes) nonce plaintext := by
  have hsuits := Gcm.suits_roundKeys key.length_bytes hnonce
  have hlength : (nonce ++ Gcm.crypt (Aes.roundKeys key.bytes) nonce plaintext).length =
      plaintext.length + 12 := by
    rw [List.length_append, hnonce, hsuits.length_crypt, Nat.add_comm]
  rw [encrypt, Gcm.encrypt, ← List.append_assoc]
  exact List.take_left' hlength

/-- A blob that differs from one that is opened in nothing but its last sixteen bytes is refused. -/
theorem decrypt_of_other_tag {blob blob' plaintext : Bytes}
    (h : decrypt key blob aad = .ok plaintext) (hlength : blob'.length = blob.length)
    (hbody : blob'.take (blob.length - 16) = blob.take (blob.length - 16)) (hne : blob' ≠ blob) :
    decrypt key blob' aad = .error (.decryptionFailed "authentication failed") := by
  obtain ⟨hlong, hblob⟩ := decrypt_eq_ok_iff.1 h
  refine decrypt_of_refused (hlength ▸ hlong) fun plaintext' h' => hne ?_
  obtain ⟨-, hblob'⟩ := decrypt_eq_ok_iff.1 h'
  -- Both begin with the same nonce, which is before the tag.
  have hnonce : blob'.take 12 = blob.take 12 := by
    have hfirst := congrArg (List.take 12) hbody
    rwa [List.take_take, List.take_take, Nat.min_eq_left (by omega)] at hfirst
  have htwelve : (blob.take 12).length = 12 := by
    rw [List.length_take]
    omega
  rw [hnonce] at hblob'
  have hsize := congrArg List.length hblob
  have hsize' := congrArg List.length hblob'
  rw [length_encrypt htwelve] at hsize hsize'
  -- So the plaintexts are equal under the key stream, and the blobs are made of them.
  have hcipher : blob.take 12 ++ Gcm.crypt (Aes.roundKeys key.bytes) (blob.take 12) plaintext' =
      blob.take 12 ++ Gcm.crypt (Aes.roundKeys key.bytes) (blob.take 12) plaintext := by
    rw [← take_encrypt htwelve plaintext' aad, ← take_encrypt htwelve plaintext aad, ← hblob,
      ← hblob']
    have hcount : plaintext.length + 12 = blob.length - 16 := by omega
    have hcount' : plaintext'.length + 12 = blob.length - 16 := by omega
    rw [hcount, hcount', hbody]
  have hsuits := Gcm.suits_roundKeys key.length_bytes htwelve
  have hplain : plaintext' = plaintext := by
    rw [← hsuits.crypt_crypt plaintext', List.append_cancel_left hcipher, hsuits.crypt_crypt]
  rw [hblob', hplain, ← hblob]

end Aead

/-! ## A protector inside the process -/

namespace LocalProtector

variable (p : LocalProtector) {blob : Bytes}

theorem decrypt_of_error {e : CryptoError} (h : Aead.decrypt p.key blob p.aad = .error e)
    (calls : LocalCalls) : p.protector.decrypt blob calls =
      (.error (.backend p.name "decrypt" e.message), calls) := by
  simp only [protector, h]
  rfl

theorem decrypt_of_ok {plaintext : Bytes} (h : Aead.decrypt p.key blob p.aad = .ok plaintext)
    (calls : LocalCalls) : p.protector.decrypt blob calls =
      (.ok plaintext, { calls with decrypts := calls.decrypts + 1 }) := by
  simp only [protector, h]

/-- Whether a blob is opened under the protector's key. -/
def opens (blob : Bytes) : Bool :=
  (Aead.decrypt p.key blob p.aad).isOk

/-- What is counted after blobs have been given to the protector one after the other. -/
def callsAfter (blobs : List Bytes) (calls : LocalCalls) : LocalCalls :=
  blobs.foldl (fun calls blob => (p.protector.decrypt blob calls).2) calls

/-- Only blobs that are opened are counted. -/
theorem callsAfter_eq (blobs : List Bytes) (calls : LocalCalls) : p.callsAfter blobs calls =
    { calls with decrypts := calls.decrypts + blobs.countP p.opens } := by
  induction blobs generalizing calls with
  | nil => rfl
  | cons blob blobs ih =>
    show p.callsAfter blobs (p.protector.decrypt blob calls).2 = _
    rw [List.countP_cons, ih]
    cases h : Aead.decrypt p.key blob p.aad with
    | ok plaintext =>
      have hopens : p.opens blob = true := by rw [opens, h]; rfl
      rw [p.decrypt_of_ok h, if_pos hopens]
      simp only [Nat.add_assoc, Nat.add_comm 1]
    | error e =>
      have hopens : ¬p.opens blob = true := by rw [opens, h]; exact Bool.false_ne_true
      rw [p.decrypt_of_error h, if_neg hopens]
      rfl

end LocalProtector

namespace Aead

/-- **What is opened is what has been sealed.** A blob is opened exactly if it has at least 28 bytes
and is a nonce of twelve bytes with the ciphertext and tag of the plaintext under this nonce; so
whatever has been sealed with any nonce is opened, and takes 28 bytes more than the plaintext. Every
shorter blob is refused for its form, and every other one that is refused for its authenticity, as
is one of which the tag alone is changed. The protector inside the process fails with the same
refusal, and counts the blobs that are opened only. -/
theorem decrypts_exactly_sealed (key : SymmetricKey) (aad : Bytes) :
    (∀ blob plaintext, decrypt key blob aad = .ok plaintext ↔ 28 ≤ blob.length ∧
        blob = blob.take 12 ++ Gcm.encrypt key.bytes (blob.take 12) aad plaintext) ∧
      (∀ nonce plaintext, nonce.length = 12 →
        decrypt key (encrypt key nonce plaintext aad) aad = .ok plaintext ∧
          (encrypt key nonce plaintext aad).length = plaintext.length + 28) ∧
      (∀ blob, blob.length < 28 →
        decrypt key blob aad = .error (.invalidInput "ciphertext too short")) ∧
      (∀ blob, 28 ≤ blob.length → (∀ plaintext, decrypt key blob aad ≠ .ok plaintext) →
        decrypt key blob aad = .error (.decryptionFailed "authentication failed")) ∧
      (∀ blob blob' plaintext, decrypt key blob aad = .ok plaintext →
        blob'.length = blob.length →
        blob'.take (blob.length - 16) = blob.take (blob.length - 16) → blob' ≠ blob →
        decrypt key blob' aad = .error (.decryptionFailed "authentication failed")) ∧
      ∀ p : LocalProtector, p.key = key → p.aad = aad →
        (∀ blob e calls, decrypt key blob aad = .error e → p.protector.decrypt blob calls =
          (.error (.backend p.name "decrypt" e.message), calls)) ∧
        ∀ blobs calls, p.callsAfter blobs calls =
          { calls with decrypts := calls.decrypts + blobs.countP p.opens } := by
  refine ⟨?_, ?_, ?_, ?_, ?_, ?_⟩
  · exact fun blob plaintext => decrypt_eq_ok_iff
  · exact fun nonce plaintext h => ⟨decrypt_encrypt h plaintext, length_encrypt h plaintext⟩
  · exact fun blob h => decrypt_of_short h
  · exact fun blob hlong h => decrypt_of_refused hlong h
  · exact fun blob blob' plaintext h hlength hbody hne =>
      decrypt_of_other_tag h hlength hbody hne
  · rintro p rfl rfl
    exact ⟨fun blob e calls h => p.decrypt_of_error h calls, p.callsAfter_eq⟩

/-- A protector whose key is all zeros, as is every nonce. -/
def sampleProtector : LocalProtector where
  key := ⟨List.replicate 32 0, rfl⟩
  nonce _ := List.replicate 12 0

/-- The empty plaintext sealed by it. -/
def sampleBlob : Bytes :=
  encrypt sampleProtector.key (List.replicate 12 0) [] sampleProtector.aad

/-- The blob with its last byte counted up. -/
def tamperedBlob : Bytes :=
  sampleBlob.dropLast ++ [sampleBlob.getLastD 0 + 1]

theorem tamperedBlob_ne : tamperedBlob ≠ sampleBlob := by
  intro heq
  have hlast := congrArg (List.getLastD · 0) heq
  have hbyte : sampleBlob.getLastD 0 + 1 = sampleBlob.getLastD 0 := by
    rwa [tamperedBlob, List.getLastD_concat] at hlast
  -- Counting up changes a byte even where it starts again.
  have hvalue := congrArg UInt8.toNat hbyte
  have hlt := (sampleBlob.getLastD 0).toNat_lt
  have hone : (1 : UInt8).toNat = 1 := rfl
  rw [UInt8.toNat_add, hone] at hvalue
  omega

/-- The blob is opened; without its last byte it is too short, and with another one it is refused.
Of the three requests, one is counted. -/
theorem decrypts_exactly_sealed_empty :
    decrypt sampleProtector.key sampleBlob sampleProtector.aad = .ok [] ∧
      decrypt sampleProtector.key sampleBlob.dropLast sampleProtector.aad =
        .error (.invalidInput "ciphertext too short") ∧
      decrypt sampleProtector.key tamperedBlob sampleProtector.aad =
        .error (.decryptionFailed "authentication failed") ∧
      sampleProtector.callsAfter [sampleBlob, sampleBlob.dropLast, tamperedBlob] {} =
        { decrypts := 1 } := by
  obtain ⟨-, hsealed, hshort, -, htag, hprotector⟩ :=
    decrypts_exactly_sealed sampleProtector.key sampleProtector.aad
  obtain ⟨hopened, hlength⟩ := hsealed (List.replicate 12 0) [] rfl
  rw [← sampleBlob] at hopened hlength
  rw [List.length_nil, Nat.zero_add] at hlength
  have hdropped : sampleBlob.dropLast.length = 27 := by
    rw [List.length_dropLast, hlength]
  have hrefused := hshort sampleBlob.dropLast (by omega)
  have hbody : tamperedBlob.take (sampleBlob.length - 16) =
      sampleBlob.take (sampleBlob.length - 16) := by
    rw [tamperedBlob, List.take_append_of_le_length (by omega), List.dropLast_eq_take,
      List.take_take, Nat.min_eq_left (by omega)]
  have hsize : tamperedBlob.length = sampleBlob.length := by
    rw [tamperedBlob, List.length_append, hdropped, hlength, List.length_singleton]
  have htampered := htag sampleBlob tamperedBlob [] hopened hsize hbody tamperedBlob_ne
  refine ⟨hopened, hrefused, htampered, ?_⟩
  rw [(hprotector sampleProtector rfl rfl).2]
  have hopens : sampleProtector.opens sampleBlob = true := by
    rw [LocalProtector.opens, hopened]
    rfl
  have hcut : ¬sampleProtector.opens sampleBlob.dropLast = true := by
    rw [LocalProtector.opens, hrefused]
    exact Bool.false_ne_true
  have hchanged : ¬sampleProtector.opens tamperedBlob = true := by
    rw [LocalProtector.opens, htampered]
    exact Bool.false_ne_true
  rw [List.countP_cons_of_pos hopens, List.countP_cons_of_neg hcut,
    List.countP_cons_of_neg hchanged, List.countP_nil]

end Aead
end Gatehouse
