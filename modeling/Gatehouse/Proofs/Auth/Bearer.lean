import Gatehouse.Auth.Gate
import Gatehouse.Proofs.Call
import Gatehouse.Proofs.Identifier
import Gatehouse.Proofs.Octets
import Gatehouse.Proofs.Store.Query

/-!
# What an authorization header presents

A header value is text if all its bytes are visible, and then the text has these bytes. Behind the
scheme stands a secret, which is the external form of 16 bytes and identifies the key whose digest
these bytes have, unless that key is revoked.
-/

namespace Gatehouse

/-! ## Header text -/

namespace Http

/-- The character of a visible byte gives the byte back. -/
theorem ofNat_toNat_of_isVisible {b : UInt8} (h : isVisible b = true) :
    UInt8.ofNat (Char.ofNat b.toNat).toNat = b := by
  have hlt : b.toNat < 0x7f := by
    rw [isVisible, Bool.or_eq_true, Bool.and_eq_true, decide_eq_true_eq, decide_eq_true_eq,
      beq_iff_eq] at h
    rcases h with ⟨-, h⟩ | rfl
    · exact UInt8.lt_iff_toNat_lt.1 h
    · decide
  have hchar : b.toNat.isValidChar := .inl (by omega)
  -- A visible byte is below the surrogates, so it is the number of a character.
  have hback : (Char.ofNat b.toNat).toNat = b.toNat := by
    rw [Char.ofNat, dif_pos hchar]
    rfl
  rw [hback, UInt8.ofNat_toNat]

/-- The text of a header value has its bytes. -/
theorem ofAscii_of_headerText? {value : Bytes} {text : String} (h : headerText? value = some text) :
    Bytes.ofAscii text = value := by
  rw [headerText?] at h
  split at h
  · rename_i hvisible
    rw [← Option.some.inj h, Bytes.ofAscii, String.toList_ofList, List.map_map]
    -- Each byte is visible, so it comes back from its character.
    conv_rhs => rw [← List.map_id value]
    exact List.map_congr_left fun b hb =>
      ofNat_toNat_of_isVisible (List.all_eq_true.1 hvisible b hb)
  · cases h

/-- A character that stands for a visible byte. -/
def isVisibleChar (c : Char) : Bool :=
  c.toNat < 0x7f && isVisible (UInt8.ofNat c.toNat)

/-- The bytes of a text are read as this text if its characters are visible. -/
theorem headerText?_ofAscii {text : String} (h : ∀ c ∈ text.toList, isVisibleChar c = true) :
    headerText? (Bytes.ofAscii text) = some text := by
  have hvisible : (Bytes.ofAscii text).all isVisible = true := by
    rw [Bytes.ofAscii, List.all_map, List.all_eq_true]
    intro c hc
    exact (Bool.and_eq_true_iff.1 (h c hc)).2
  have hback : ∀ c ∈ text.toList, Char.ofNat (UInt8.ofNat c.toNat).toNat = c := by
    intro c hc
    have hlt : c.toNat < 0x7f := of_decide_eq_true (Bool.and_eq_true_iff.1 (h c hc)).1
    rw [Bytes.toNat_uint8_ofNat (by omega), Char.ofNat_toNat]
  rw [headerText?, if_pos hvisible, Bytes.ofAscii, List.map_map]
  have hmap : text.toList.map
      ((fun b : UInt8 => Char.ofNat b.toNat) ∘ fun c => UInt8.ofNat c.toNat) = text.toList := by
    conv_rhs => rw [← List.map_id text.toList]
    exact List.map_congr_left hback
  rw [hmap, String.ofList_toList]

end Http

/-! ## Secrets in header values -/

namespace Gate

theorem bearerSecret?_eq_some_iff {text secret : String} :
    bearerSecret? text = some secret ↔ text = bearerScheme ++ secret := by
  rw [bearerSecret?, ← String.toList_inj, String.toList_append, ← Traversal.isPrefixOf?_eq_some_iff]
  constructor
  · intro h
    obtain ⟨rest, hrest, hsecret⟩ := Option.map_eq_some_iff.1 h
    rw [← hsecret, String.toList_ofList]
    exact hrest
  · intro h
    rw [h, Option.map_some, String.ofList_toList]

/-- The value of an authorization header that presents a secret. -/
def presented (secret : Uuid) : Bytes :=
  Bytes.ofAscii (bearerScheme ++ IdFormat.apiKeySecret.format secret)

theorem isVisibleChar_digitChar {n : Nat} (h : n < 36) :
    Http.isVisibleChar (IdFormat.digitChar n) = true := by
  revert n
  decide

theorem isVisibleChar_presented (secret : Uuid) :
    ∀ c ∈ (bearerScheme ++ IdFormat.apiKeySecret.format secret).toList,
      Http.isVisibleChar c = true := by
  have hscheme : bearerScheme.toList.all Http.isVisibleChar = true := by decide +kernel
  have hlabel : IdFormat.apiKeySecret.label.toList.all Http.isVisibleChar = true := by
    decide +kernel
  intro c hc
  -- Scheme, label, underscore and digits, one after the other.
  rw [String.toList_append, IdFormat.toList_format] at hc
  rcases List.mem_append.1 hc with hc | hc
  · exact List.all_eq_true.1 hscheme c hc
  · rcases List.mem_append.1 hc with hc | hc
    · exact List.all_eq_true.1 hlabel c hc
    · rcases List.mem_cons.1 hc with rfl | hc
      · decide
      · obtain ⟨d, hd, rfl⟩ := List.mem_map.1 hc
        exact isVisibleChar_digitChar (Positional.lt_of_mem_digits (by decide) hd)

/-- A value presents a secret exactly if it is text, and the text has the secret's external form
behind the scheme. -/
theorem eq_presented_iff {value : Bytes} {secret : Uuid} :
    value = presented secret ↔ ∃ text, Http.headerText? value = some text ∧
      bearerSecret? text = some (IdFormat.apiKeySecret.format secret) := by
  constructor
  · intro h
    rw [h, presented]
    exact ⟨bearerScheme ++ IdFormat.apiKeySecret.format secret,
      Http.headerText?_ofAscii (isVisibleChar_presented secret),
      bearerSecret?_eq_some_iff.2 rfl⟩
  · rintro ⟨text, htext, hsecret⟩
    rw [← Http.ofAscii_of_headerText? htext, bearerSecret?_eq_some_iff.1 hsecret, presented]

end Gate

/-! ## Keys behind secrets -/

namespace ApiKeys

variable {σ : Type}

/-- Whom a secret identifies, as the tables give it. -/
def holder (secret : String) (db : Database) : Except AuthError ApiKeyIdentity :=
  match IdFormat.apiKeySecret.parse secret with
  | .error _ => .error .unauthenticated
  | .ok token => do
    match ← (db.findApiKey (digest token)).mapError .ofStore with
    | none => .error .unauthenticated
    | some record =>
      if record.revoked then .error .unauthenticated
      else .ok ⟨record.id, record.projectId, record.authenticationOnly⟩

theorem reads_refuse {α : Type} (message : String) (fields : Log.Fields) :
    Call.Reads (refuse (σ := σ) (α := α) message fields) fun _ => .error .unauthenticated :=
  Call.reads_emit_fail _ _

theorem reads_authenticate (secret : String) :
    Call.Reads (authenticate (σ := σ) secret) (holder secret) := by
  rw [authenticate]
  unfold holder
  cases IdFormat.apiKeySecret.parse secret with
  | error e => exact reads_refuse _ _
  | ok token =>
    refine ((Store.reads_read _).mapError _).bind fun found => ?_
    cases found with
    | none => exact reads_refuse _ _
    | some record =>
      dsimp only
      split
      · exact reads_refuse _ _
      · exact Call.reads_pure _

/-- A secret has the digest of a stored key that is not revoked. -/
def Opens (db : Database) (secret : Uuid) (key : ApiKeyIdentity) : Prop :=
  ∃ row ∈ db.apiKeys, row.secretDigest = Sha256.hash secret.toBytes ∧ row.revoked = false ∧
    row.id = key.apiKeyId.text ∧ row.projectId = key.projectId.text ∧
    row.authenticationOnly = key.authenticationOnly

section Holder

variable {db : Database}

theorem holder_of_opens (hdb : db.Conforms) {secret : Uuid} {key : ApiKeyIdentity}
    (h : Opens db secret key) : holder (IdFormat.apiKeySecret.format secret) db = .ok key := by
  obtain ⟨row, hrow, hdigest, hrevoked, hid, hproject, honly⟩ := h
  have hholds : row.Holds ⟨key.apiKeyId, key.projectId, row.displayName, key.authenticationOnly,
      false, row.createdAt⟩ := ⟨hid, hproject, rfl, honly, hrevoked, rfl⟩
  have hfound := hdb.findApiKey_of_mem hrow hholds
  rw [hdigest] at hfound
  rw [holder, IdFormat.parse_format]
  dsimp only [digest]
  rw [hfound]
  rfl

/-- A secret that opens no key is refused. -/
theorem holder_of_not_opens (hdb : db.Conforms) {secret : String}
    (h : ∀ token key, secret = IdFormat.apiKeySecret.format token → ¬Opens db token key) :
    holder secret db = .error .unauthenticated := by
  rw [holder]
  cases hparse : IdFormat.apiKeySecret.parse secret with
  | error e => rfl
  | ok token =>
    have hsecret := IdFormat.parse_eq_ok_iff.1 hparse
    dsimp only
    by_cases hstored : ∃ row ∈ db.apiKeys, row.secretDigest = digest token
    · obtain ⟨row, hrow, hdigest⟩ := hstored
      obtain ⟨key, hkey⟩ := hdb.exists_holds hrow
      rw [← hdigest, hdb.findApiKey_of_mem hrow hkey]
      -- The key is there, so it must be revoked.
      have hrevoked : key.revoked = true := by
        by_contra hgood
        have hactive : row.revoked = false := hkey.revoked.trans (Bool.not_eq_true _ ▸ hgood)
        exact h token ⟨key.id, key.projectId, key.authenticationOnly⟩ hsecret
          ⟨row, hrow, hdigest, hactive, hkey.id, hkey.projectId, hkey.authenticationOnly⟩
      show (if key.revoked then _ else _) = _
      rw [if_pos hrevoked]
    · have hnone : ∀ row ∈ db.apiKeys, row.secretDigest ≠ digest token :=
        fun row hrow hdigest => hstored ⟨row, hrow, hdigest⟩
      rw [hdb.findApiKey_of_not_mem hnone]
      rfl

end Holder

end ApiKeys
end Gatehouse
