import Gatehouse.Proofs.Session.Verification

/-!
# Verification up to the signature

Verification begins with what a project's keys decide: the header has to name an active one, and that
key has to have signed. Everything after that is about the claims, the clock and the organization.
-/

namespace Gatehouse.SessionToken

variable [Wording] {σ : Type}

/-- How a token is refused that is not one that a key has signed for an audience. -/
def unsigned (audience : String) (key : PublicKey) (token : String) : TokenRejection :=
  .signatureOrClaims (Wording.signedToken audience key.toSubjectPublicKeyInfo token)

/-- The parts of a token for an audience, if a key has signed them. -/
def signedParts (audience : String) (key : PublicKey) (token : String) :
    Except TokenRejection CompactToken :=
  match CompactToken.parse? token with
  | none => .error (unsigned audience key token)
  | some t =>
    match Base64.urlSafe.decode? t.signature with
    | none => .error (unsigned audience key token)
    | some signature =>
      if Ecdsa.verify key t.message signature then .ok t else .error (unsigned audience key token)

/-- The claims for an audience in the parts of a token that a key has signed. -/
def claimsFor (audience : String) (key : PublicKey) (t : CompactToken) :
    Except TokenRejection SessionClaims :=
  match claimsOfPart? t.payload with
  | none => .error (unsigned audience key t.render)
  | some claims =>
    if claims.aud = audience then .ok claims else .error (unsigned audience key t.render)

/-- Verification up to the signature: the key that has signed a token, and the parts of it. -/
def checkSignature (c : TokenConfig) (projectId : Uuid) (token : String) (now : Int) :
    Call σ SessionError (PublicKey × CompactToken) := do
  let (kid, keyId) ← orReject projectId (keyOf token)
  let keys ← SigningKeys.activePublicKeys projectId now
  let key ← orReject projectId (keyFor keys kid keyId)
  let t ← orReject projectId (signedParts (c.audience projectId) key.publicKey token)
  return (key.publicKey, t)

/-- Verification of a token whose parts a key has signed. -/
def identify (c : TokenConfig) (projectId : Uuid) (now : Int) (signed : PublicKey × CompactToken) :
    Call σ SessionError SessionIdentity := do
  let claims ← orReject projectId (claimsFor (c.audience projectId) signed.1 signed.2)
  let leeway ← Call.ofExcept (clockSeconds c.leeway)
  orReject projectId (checkTimes claims leeway now)
  let (userId, sessionId, organizationId) ← orReject projectId (claimIds claims)
  return ⟨userId, sessionId, organizationId, ← projectOf claims organizationId⟩

/-! ## The two halves of verification -/

theorem signedClaims_eq (audience : String) (key : PublicKey) (token : String) :
    signedClaims audience key token =
      signedParts audience key token >>= claimsFor audience key := by
  rw [signedClaims, signedParts]
  cases hparse : CompactToken.parse? token with
  | none => rfl
  | some t =>
    -- The parts make the token that they were cut from, and it is refused with the same words.
    obtain ⟨rfl, -⟩ := CompactToken.parse?_eq_some_iff.1 hparse
    dsimp only
    cases Base64.urlSafe.decode? t.signature with
    | none => rfl
    | some signature =>
      dsimp only
      by_cases hverify : Ecdsa.verify key t.message signature = true
      · rw [if_pos hverify]
        show _ = claimsFor audience key t
        rw [claimsFor]
        cases claimsOfPart? t.payload with
        | none => rfl
        | some claims =>
          dsimp only
          simp only [hverify, true_and]
          rfl
      · rw [if_neg hverify]
        cases claimsOfPart? t.payload with
        | none => rfl
        | some claims => exact if_neg fun h => hverify h.1

omit [Wording] in
/-- An examination in two steps may be told about after each of them. -/
theorem orReject_bind {α β : Type} (projectId : Uuid) (r : Except TokenRejection α)
    (f : α → Except TokenRejection β) : orReject (σ := σ) projectId (r >>= f) =
      orReject projectId r >>= fun a => orReject projectId (f a) := by
  cases r with
  | error e => rfl
  | ok a => rfl

/-- Verification is the check of the signature, and then whatever is left. -/
theorem verify_eq (c : TokenConfig) (projectId : Uuid) (token : String) (now : Int) :
    verify (σ := σ) c projectId token now =
      checkSignature c projectId token now >>= identify c projectId now := by
  rw [verify, checkSignature, bind_assoc]
  refine bind_congr fun ⟨kid, keyId⟩ => ?_
  rw [bind_assoc]
  refine bind_congr fun keys => ?_
  rw [bind_assoc]
  refine bind_congr fun key => ?_
  rw [signedClaims_eq, orReject_bind, bind_assoc, bind_assoc]
  rfl

/-! ## What the first half accepts -/

theorem signedParts_eq_ok_iff {audience : String} {key : PublicKey} {token : String}
    {t : CompactToken} : signedParts audience key token = .ok t ↔
      CompactToken.parse? token = some t ∧ Signed key t := by
  have hsigned : ∀ parts, parts = t ∧ Signed key t ↔ parts = t ∧ Signed key parts := by
    intro parts
    exact and_congr_right fun h => h ▸ Iff.rfl
  rw [signedParts]
  cases CompactToken.parse? token with
  | none => exact iff_of_false nofun (fun h => nomatch h.1)
  | some parts =>
    dsimp only
    rw [Option.some.injEq, hsigned, Signed]
    cases Base64.urlSafe.decode? parts.signature with
    | none => exact iff_of_false nofun (fun ⟨_, _, h, _⟩ => nomatch h)
    | some signature =>
      dsimp only
      by_cases hverify : Ecdsa.verify key parts.message signature = true
      · rw [if_pos hverify, Except.ok.injEq]
        exact (and_iff_left ⟨signature, rfl, hverify⟩).symm
      · rw [if_neg hverify]
        refine iff_of_false nofun ?_
        rintro ⟨-, _, ⟨⟩, h⟩
        exact hverify h

/-- The check of the signature as a question to the tables. -/
def signedIn (c : TokenConfig) (projectId : Uuid) (token : String) (now : Int) (db : Database) :
    Except SessionError (PublicKey × CompactToken) := do
  let (kid, keyId) ← tell (keyOf token)
  let keys ← activeKeys projectId now db
  let key ← tell (keyFor keys kid keyId)
  let t ← tell (signedParts (c.audience projectId) key.publicKey token)
  return (key.publicKey, t)

theorem reads_checkSignature (c : TokenConfig) (projectId : Uuid) (token : String) (now : Int) :
    Call.Reads (checkSignature (σ := σ) c projectId token now)
      (signedIn c projectId token now) := by
  refine (reads_orReject projectId (keyOf token)).bind fun ⟨kid, keyId⟩ => ?_
  refine (reads_activePublicKeys projectId now).bind fun keys => ?_
  refine (reads_orReject projectId _).bind fun key => ?_
  exact (reads_orReject projectId _).bind fun t => Call.reads_pure _

omit [Wording] in
theorem tell_eq_ok_iff {α : Type} {r : Except TokenRejection α} {a : α} :
    tell r = .ok a ↔ r = .ok a := by
  cases r with
  | error e => exact iff_of_false nofun nofun
  | ok b => exact ⟨fun h => congrArg Except.ok (Except.ok.inj h), fun h => h ▸ rfl⟩

/-- The check of the signature lets the parts of a token through exactly if their header names an
active key of the project and that key has signed them. -/
theorem signedIn_eq_ok_iff {c : TokenConfig} {db : Database} (hdb : db.Conforms) {projectId : Uuid}
    {now : Int} (hkeys : KeysReadable db projectId now) {token : String} {key : PublicKey}
    {t : CompactToken} : signedIn c projectId token now db = .ok (key, t) ↔
      CompactToken.parse? token = some t ∧
        ∃ keyId, Names t.header keyId ∧ ActiveKey db projectId now keyId key ∧ Signed key t := by
  obtain ⟨keys, hread, hfind⟩ := exists_activeKeys hdb hkeys
  constructor
  · intro h
    obtain ⟨⟨kid, keyId⟩, hkey, h⟩ := Traversal.bind_eq_ok_iff.1 h
    obtain ⟨found, hfound, h⟩ := Traversal.bind_eq_ok_iff.1 h
    obtain rfl := Except.ok.inj (hread.symm.trans hfound)
    obtain ⟨found, hfor, h⟩ := Traversal.bind_eq_ok_iff.1 h
    obtain ⟨parts, hsigned, h⟩ := Traversal.bind_eq_ok_iff.1 h
    obtain ⟨rfl, rfl⟩ := Prod.mk.inj (Except.ok.inj h)
    obtain ⟨-, t', ht', hnames⟩ := keyOf_eq_ok_iff.1 (tell_eq_ok_iff.1 hkey)
    obtain ⟨ht, hsigned⟩ := signedParts_eq_ok_iff.1 (tell_eq_ok_iff.1 hsigned)
    -- The token is cut twice, for its header and for its signature, and both times into these parts.
    obtain rfl := Option.some.inj (ht'.symm.trans ht)
    exact ⟨ht, keyId, hnames, (hfind kid keyId _).1 ⟨found, tell_eq_ok_iff.1 hfor, rfl⟩, hsigned⟩
  · rintro ⟨ht, keyId, hnames, hactive, hsigned⟩
    have hkey := keyOf_eq_ok_iff.2 ⟨rfl, t, ht, hnames⟩
    obtain ⟨found, hfound, rfl⟩ := (hfind (IdFormat.signingKey.format keyId) keyId key).2 hactive
    have hparts : signedParts (c.audience projectId) found.publicKey token = .ok t :=
      signedParts_eq_ok_iff.2 ⟨ht, hsigned⟩
    refine Traversal.bind_eq_ok_iff.2 ⟨_, tell_eq_ok_iff.2 hkey, ?_⟩
    refine Traversal.bind_eq_ok_iff.2 ⟨_, hread, ?_⟩
    refine Traversal.bind_eq_ok_iff.2 ⟨_, tell_eq_ok_iff.2 hfound, ?_⟩
    exact Traversal.bind_eq_ok_iff.2 ⟨_, tell_eq_ok_iff.2 hparts, rfl⟩

end Gatehouse.SessionToken
