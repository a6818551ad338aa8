import Gatehouse.Proofs.Call
import Gatehouse.Proofs.Session.Compact
import Gatehouse.Proofs.Store.Query
import Gatehouse.Session.Token

/-!
# Which tokens are verified

Verification is a question to the tables and to the token. The token is examined first, with the
active keys of the project at hand, and whatever is wrong with it has one outcome; the organization
of its claims is looked up at last. So what is accepted can be said in one piece.
-/

namespace Gatehouse

namespace SessionToken

variable {σ : Type}

/-! ## Verification as a question to the tables -/

/-- The key with a given id among some keys; `kid` is the name that the token has for it. -/
def keyFor (keys : List SessionPublicKey) (kid : String) (keyId : Uuid) :
    Except TokenRejection SessionPublicKey :=
  match keys.find? (·.id == keyId) with
  | some key => .ok key
  | none => .error (.inactiveKid kid)

variable [Wording]

/-- The examination of a token with some keys at hand: its claims, and the ids of user, session and
organization in them. -/
def examine (c : TokenConfig) (projectId : Uuid) (keys : List SessionPublicKey) (token : String)
    (now : Int) : Except TokenRejection (SessionClaims × Uuid × Uuid × Uuid) := do
  let (kid, keyId) ← keyOf token
  let key ← keyFor keys kid keyId
  let claims ← signedClaims (c.audience projectId) key.publicKey token
  checkTimes claims c.leeway now
  return (claims, ← claimIds claims)

/-- The public halves of a project's active keys, as the tables give them. -/
def activeKeys (projectId : Uuid) (now : Int) (db : Database) :
    Except SessionError (List SessionPublicKey) := do
  let records ← (db.activeSigningKeys projectId now).mapError .storage
  records.mapM SessionPublicKey.ofRecord

theorem reads_activePublicKeys (projectId : Uuid) (now : Int) :
    Call.Reads (SigningKeys.activePublicKeys (σ := σ) projectId now) (activeKeys projectId now) :=
  ((Store.reads_read _).mapError _).bind fun _ => Call.reads_ofExcept _

omit [Wording] in
theorem reads_orReject {α : Type} (projectId : Uuid) (r : Except TokenRejection α) :
    Call.Reads (orReject (σ := σ) projectId r) fun _ =>
      r.mapError fun _ => SessionError.authenticationFailed := by
  cases r with
  | ok a => exact Call.reads_pure a
  | error e => exact Call.reads_emit_fail _ _

/-- What it means for some claims that the tables give a project for their organization or fail. -/
def backing (claims : SessionClaims) : Except StoreError Uuid → Except SessionError Uuid
  | .ok id => .ok id
  | .error (.notFound _) =>
    .error (.integrity s!"organization {claims.organization.id} backs no project")
  | .error e => .error (.storage e)

omit [Wording] in
theorem reads_projectOf (claims : SessionClaims) (organizationId : Uuid) :
    Call.Reads (projectOf (σ := σ) claims organizationId) fun db =>
      backing claims (db.backedProject organizationId) := by
  have hread : Call.Reads (σ := σ) _ _ :=
    Store.reads_read (Database.backedProject organizationId)
  refine hread.attempt.bind (h := fun r _ => backing claims r) fun r => ?_
  cases r with
  | ok id => exact Call.reads_pure id
  | error e =>
    cases e with
    | notFound detail => exact Call.reads_emit_fail _ _
    | _ => exact Call.reads_fail _

/-- A rejection as it is told. -/
def tell {α : Type} (r : Except TokenRejection α) : Except SessionError α :=
  r.mapError fun _ => .authenticationFailed

/-- The outcome of verification, as the tables give it. -/
def verdict (c : TokenConfig) (projectId : Uuid) (token : String) (now : Int) (db : Database) :
    Except SessionError SessionIdentity := do
  let (kid, keyId) ← tell (keyOf token)
  let keys ← activeKeys projectId now db
  let key ← tell (keyFor keys kid keyId)
  let claims ← tell (signedClaims (c.audience projectId) key.publicKey token)
  let leeway ← clockSeconds c.leeway
  tell (checkTimes claims leeway now)
  let (userId, sessionId, organizationId) ← tell (claimIds claims)
  return ⟨userId, sessionId, organizationId, ← backing claims (db.backedProject organizationId)⟩

theorem reads_verify (c : TokenConfig) (projectId : Uuid) (token : String) (now : Int) :
    Call.Reads (verify (σ := σ) c projectId token now) (verdict c projectId token now) := by
  refine (reads_orReject projectId (keyOf token)).bind fun ⟨kid, keyId⟩ => ?_
  refine (reads_activePublicKeys projectId now).bind fun keys => ?_
  refine (reads_orReject projectId _).bind fun key => ?_
  refine (reads_orReject projectId _).bind fun claims => ?_
  refine (Call.reads_ofExcept _).bind fun leeway => ?_
  refine (reads_orReject projectId _).bind fun _ => ?_
  refine (reads_orReject projectId _).bind fun ⟨userId, sessionId, organizationId⟩ => ?_
  exact (reads_projectOf claims organizationId).bind fun _ => Call.reads_pure _

/-- With the active keys at hand, verification is an examination and the lookup of a project. -/
theorem verdict_eq {c : TokenConfig} {projectId : Uuid} {now : Int} {keys : List SessionPublicKey}
    {db : Database} (token : String) (hkeys : activeKeys projectId now db = .ok keys)
    (hleeway : c.leeway < Limit.bits63) :
    verdict c projectId token now db =
      tell (examine c projectId keys token now) >>= fun found => do
        return ⟨found.2.1, found.2.2.1, found.2.2.2,
          ← backing found.1 (db.backedProject found.2.2.2)⟩ := by
  rw [verdict, examine, hkeys, clockSeconds, if_pos hleeway]
  -- The steps are the same on both sides. A rejection is told at once on the left and at the end on
  -- the right, so they are compared one by one.
  cases keyOf token with
  | error e => rfl
  | ok named =>
    obtain ⟨kid, keyId⟩ := named
    show (tell (keyFor keys kid keyId) >>= _) = tell (keyFor keys kid keyId >>= _) >>= _
    cases keyFor keys kid keyId with
    | error e => rfl
    | ok key =>
      show (tell (signedClaims _ key.publicKey token) >>= _) =
        tell (signedClaims _ key.publicKey token >>= _) >>= _
      cases signedClaims (c.audience projectId) key.publicKey token with
      | error e => rfl
      | ok claims =>
        show (tell (checkTimes claims c.leeway now) >>= _) =
          tell (checkTimes claims c.leeway now >>= _) >>= _
        cases checkTimes claims c.leeway now with
        | error e => rfl
        | ok u =>
          show (tell (claimIds claims) >>= _) = tell (claimIds claims >>= _) >>= _
          cases claimIds claims with
          | error e => rfl
          | ok ids => rfl

/-! ## What an examination accepts -/

/-- A key of a project is active and has a public half. -/
def ActiveKey (db : Database) (projectId : Uuid) (now : Int) (keyId : Uuid) (key : PublicKey) :
    Prop :=
  ∃ row ∈ db.signingKeys, row.id = keyId.text ∧ row.projectId = projectId.text ∧
    now < row.expiresAt ∧ PublicKey.ofSubjectPublicKeyInfo row.publicKey = .ok key

/-- A project is managed by an organization. -/
def Backs (db : Database) (organizationId projectId : Uuid) : Prop :=
  ∃ row ∈ db.projects, row.organizationId = some organizationId.text ∧ row.id = projectId.text

/-- A header names a key as the one that signs. -/
def Names (header : String) (keyId : Uuid) : Prop :=
  ∃ h : TokenHeader, (CompactToken.partJson? header).bind TokenHeader.ofJson? = some h ∧
    h.alg = .es256 ∧ h.kid = some (IdFormat.signingKey.format keyId)

/-- A payload carries claims: it is an object that gives them. -/
def Carries (payload : String) (claims : SessionClaims) : Prop :=
  ∃ ms, CompactToken.partJson? payload = some (.object ms) ∧
    SessionClaims.ofJson? (.object ms) = some claims

/-- A signature in base64 belongs to the first two parts of a token. -/
def Signed (key : PublicKey) (t : CompactToken) : Prop :=
  ∃ signature, Base64.urlSafe.decode? t.signature = some signature ∧
    Ecdsa.verify key t.message signature = true

/-- The parts of a token are acceptable for a project at a time, with these claims and ids. -/
structure Accepts (c : TokenConfig) (db : Database) (projectId : Uuid) (now : Int)
    (t : CompactToken) (claims : SessionClaims) (userId sessionId organizationId : Uuid) :
    Prop where
  /-- The header names an active key of the project, and that key has signed. -/
  signed : ∃ keyId key, Names t.header keyId ∧ ActiveKey db projectId now keyId key ∧ Signed key t
  carries : Carries t.payload claims
  expNonneg : 0 ≤ claims.exp
  audience : claims.aud = c.audience projectId
  notExpired : now - c.leeway < claims.exp
  begun : claims.nbf ≤ now + c.leeway
  user : claims.user.id = IdFormat.user.format userId
  session : claims.session.id = IdFormat.session.format sessionId
  organization : claims.organization.id = IdFormat.organization.format organizationId

/-- A token is acceptable for a project at a time, with these ids in its claims. -/
def Accepted (c : TokenConfig) (db : Database) (projectId : Uuid) (now : Int) (token : String)
    (userId sessionId organizationId : Uuid) : Prop :=
  ∃ t claims, token = CompactToken.render t ∧
    Accepts c db projectId now t claims userId sessionId organizationId

theorem headerOf_eq_ok_iff {token : String} {h : TokenHeader} :
    headerOf token = .ok h ↔ ∃ t, CompactToken.parse? token = some t ∧
      (CompactToken.partJson? t.header).bind TokenHeader.ofJson? = some h := by
  rw [headerOf, ← Option.bind_eq_some_iff]
  cases (CompactToken.parse? token).bind fun t =>
    (CompactToken.partJson? t.header).bind TokenHeader.ofJson? <;> simp

theorem keyOf_eq_ok_iff {token kid : String} {keyId : Uuid} :
    keyOf token = .ok (kid, keyId) ↔ kid = IdFormat.signingKey.format keyId ∧
      ∃ t, CompactToken.parse? token = some t ∧ Names t.header keyId := by
  rw [keyOf, Traversal.bind_eq_ok_iff]
  constructor
  · rintro ⟨h, hheader, hrest⟩
    obtain ⟨t, ht, hdecode⟩ := headerOf_eq_ok_iff.1 hheader
    -- Any other algorithm is rejected before the key is looked at.
    have halg : h.alg = .es256 := by
      by_contra halg
      rw [if_pos halg] at hrest
      cases hrest
    rw [if_neg (not_not.2 halg)] at hrest
    cases hkid : h.kid with
    | none =>
      rw [hkid] at hrest
      cases hrest
    | some name =>
      rw [hkid] at hrest
      cases hparse : IdFormat.signingKey.parse name with
      | error e =>
        simp only [hparse] at hrest
        cases hrest
      | ok id =>
        simp only [hparse] at hrest
        obtain ⟨rfl, rfl⟩ := Prod.mk.inj (Except.ok.inj hrest)
        have hname := IdFormat.parse_eq_ok_iff.1 hparse
        exact ⟨hname, t, ht, h, hdecode, halg, hkid.trans (congrArg some hname)⟩
  · rintro ⟨rfl, t, ht, h, hdecode, halg, hkid⟩
    refine ⟨h, headerOf_eq_ok_iff.2 ⟨t, ht, hdecode⟩, ?_⟩
    rw [if_neg (not_not.2 halg)]
    simp only [hkid, IdFormat.parse_format]
    rfl

omit [Wording] in
theorem claimsOfPart?_eq_some_iff {part : String} {claims : SessionClaims} :
    claimsOfPart? part = some claims ↔ Carries part claims ∧ 0 ≤ claims.exp := by
  rw [claimsOfPart?, Carries]
  constructor
  · intro h
    obtain ⟨j, hj, h⟩ := Option.bind_eq_some_iff.1 h
    cases j with
    | object ms =>
      obtain ⟨found, hfound, h⟩ := Option.bind_eq_some_iff.1 h
      by_cases hexp : 0 ≤ found.exp
      · rw [if_pos hexp] at h
        obtain rfl := Option.some.inj h
        exact ⟨⟨ms, hj, hfound⟩, hexp⟩
      · rw [if_neg hexp] at h
        cases h
    | _ => cases h
  · rintro ⟨⟨ms, hj, hfound⟩, hexp⟩
    rw [hj, Option.bind_eq_bind, Option.bind_some]
    simp only [hfound, Option.bind_eq_bind, Option.bind_some, if_pos hexp]

theorem signedClaims_eq_ok_iff {audience token : String} {key : PublicKey}
    {claims : SessionClaims} : signedClaims audience key token = .ok claims ↔
      ∃ t, CompactToken.parse? token = some t ∧ Signed key t ∧ Carries t.payload claims ∧
        0 ≤ claims.exp ∧ claims.aud = audience := by
  rw [signedClaims]
  constructor
  · intro h
    cases hparse : CompactToken.parse? token with
    | none =>
      rw [hparse] at h
      cases h
    | some t =>
      rw [hparse] at h
      dsimp only at h
      -- The first split is on the decoding of the parts, the second on what they must satisfy.
      split at h
      · rename_i signature found hsignature hfound
        split at h
        · rename_i hgood
          obtain rfl := Except.ok.inj h
          obtain ⟨hcarries, hexp⟩ := claimsOfPart?_eq_some_iff.1 hfound
          exact ⟨t, rfl, ⟨signature, hsignature, hgood.1⟩, hcarries, hexp, hgood.2⟩
        · cases h
      · cases h
  · rintro ⟨t, ht, ⟨signature, hsignature, hverify⟩, hcarries, hexp, haudience⟩
    have hclaims := claimsOfPart?_eq_some_iff.2 ⟨hcarries, hexp⟩
    rw [ht]
    simp only [hsignature, hclaims]
    exact if_pos ⟨hverify, haudience⟩

omit [Wording] in
theorem checkTimes_eq_ok_iff {claims : SessionClaims} {leeway now : Int} :
    checkTimes claims leeway now = .ok () ↔
      now - leeway < claims.exp ∧ claims.nbf ≤ now + leeway := by
  rw [checkTimes]
  split
  · rename_i h
    simp [Int.not_lt.2 h]
  · split
    · rename_i h
      simp [Int.not_le.2 h]
    · simp
      omega

omit [Wording] in
theorem claimIds_eq_ok_iff {claims : SessionClaims} {userId sessionId organizationId : Uuid} :
    claimIds claims = .ok (userId, sessionId, organizationId) ↔
      claims.user.id = IdFormat.user.format userId ∧
      claims.session.id = IdFormat.session.format sessionId ∧
      claims.organization.id = IdFormat.organization.format organizationId := by
  have hid : ∀ (format : IdFormat) (value : String) (id : Uuid),
      claimId format value = .ok id ↔ value = format.format id := by
    intro format value id
    rw [← IdFormat.parse_eq_ok_iff, claimId]
    cases format.parse value <;> simp
  rw [claimIds]
  simp only [Traversal.bind_eq_ok_iff, hid]
  constructor
  · rintro ⟨_, hu, _, hs, _, ho, heq⟩
    obtain ⟨rfl, rfl, rfl⟩ : _ = userId ∧ _ = sessionId ∧ _ = organizationId := by
      simpa using Except.ok.inj heq
    exact ⟨hu, hs, ho⟩
  · rintro ⟨hu, hs, ho⟩
    exact ⟨userId, hu, sessionId, hs, organizationId, ho, rfl⟩

/-! ## Active keys -/

theorem ofRecord_eq_ok_iff {record : SigningKey} {found : SessionPublicKey} :
    SessionPublicKey.ofRecord record = .ok found ↔
      ∃ key, PublicKey.ofSubjectPublicKeyInfo record.publicKey = .ok key ∧
        found = ⟨record.id, record.projectId, key, record.expiresAt⟩ := by
  rw [SessionPublicKey.ofRecord]
  cases PublicKey.ofSubjectPublicKeyInfo record.publicKey with
  | error e => simp
  | ok key => simp [eq_comm]

omit [Wording] in
theorem keyFor_eq_ok_iff {keys : List SessionPublicKey} {kid : String} {keyId : Uuid}
    {found : SessionPublicKey} :
    keyFor keys kid keyId = .ok found ↔ keys.find? (·.id == keyId) = some found := by
  rw [keyFor]
  cases keys.find? (·.id == keyId) <;> simp

/-- Where the tables conform to the schema and the active keys can be read, they are found by their
ids. -/
theorem exists_activeKeys {db : Database} (hdb : db.Conforms) {projectId : Uuid} {now : Int}
    (hspki : ∀ row ∈ db.activeKeyRows projectId now,
      ∃ key, PublicKey.ofSubjectPublicKeyInfo row.publicKey = .ok key) :
    ∃ keys, activeKeys projectId now db = .ok keys ∧ ∀ kid keyId key,
      (∃ found, keyFor keys kid keyId = .ok found ∧ found.publicKey = key) ↔
        ActiveKey db projectId now keyId key := by
  obtain ⟨records, hrecords, hrows⟩ := hdb.activeSigningKeys projectId now
  -- Rows, records and keys are in the same order, so each key has a row and each row has a key.
  have hactive : ∀ record ∈ records, record.row ∈ db.activeKeyRows projectId now :=
    fun record hrecord => hrows ▸ List.mem_map_of_mem hrecord
  have hread : ∀ record ∈ records, ∃ found, SessionPublicKey.ofRecord record = .ok found := by
    intro record hrecord
    obtain ⟨key, hkey⟩ := hspki record.row (hactive record hrecord)
    exact ⟨_, ofRecord_eq_ok_iff.2 ⟨key, hkey, rfl⟩⟩
  obtain ⟨keys, hkeys⟩ := Traversal.exists_mapM_eq_ok hread
  refine ⟨keys, by rw [activeKeys, hrecords]; exact hkeys, fun kid keyId key => ?_⟩
  constructor
  · rintro ⟨found, hfound, rfl⟩
    have hfind := keyFor_eq_ok_iff.1 hfound
    have hid : found.id = keyId := by
      simpa using List.find?_some hfind
    obtain ⟨record, hrecord, hof⟩ :=
      (Traversal.mem_iff_of_mapM_eq_ok hkeys).1 (List.mem_of_find?_eq_some hfind)
    obtain ⟨key, hkey, rfl⟩ := ofRecord_eq_ok_iff.1 hof
    obtain ⟨hmem, hproject, hexpires⟩ := Database.mem_activeKeyRows.1 (hactive record hrecord)
    exact ⟨record.row, hmem, congrArg Uuid.text hid, hproject, hexpires, hkey⟩
  · rintro ⟨row, hrow, hid, hproject, hexpires, hkey⟩
    have hmem : row ∈ records.map SigningKey.row :=
      hrows ▸ Database.mem_activeKeyRows.2 ⟨hrow, hproject, hexpires⟩
    obtain ⟨record, hrecord, rfl⟩ := List.mem_map.1 hmem
    have hrecordId : record.id = keyId := Uuid.text_injective hid
    have hfound := (Traversal.mem_iff_of_mapM_eq_ok hkeys).2
      ⟨record, hrecord, ofRecord_eq_ok_iff.2 ⟨key, hkey, rfl⟩⟩
    -- Ids are unique in the table, so no other key of the project has this one.
    have hunique : ∀ other ∈ keys, (other.id == keyId) = true →
        other = ⟨record.id, record.projectId, key, record.expiresAt⟩ := by
      intro other hother hotherId
      obtain ⟨record', hrecord', hof⟩ := (Traversal.mem_iff_of_mapM_eq_ok hkeys).1 hother
      obtain ⟨key', hkey', rfl⟩ := ofRecord_eq_ok_iff.1 hof
      have hsameId : record'.row.id = record.row.id :=
        congrArg Uuid.text ((beq_iff_eq.1 hotherId).trans hrecordId.symm)
      have hmem' := (Database.mem_activeKeyRows.1 (hactive record' hrecord')).1
      have hsame := Database.eq_of_nodup_map hdb.keyIds hmem' hrow hsameId
      have hrecords' := congrArg SigningKeyRow.record hsame
      rw [SigningKey.record_row, SigningKey.record_row] at hrecords'
      obtain rfl := Except.ok.inj hrecords'
      obtain rfl := Except.ok.inj (hkey'.symm.trans hkey)
      rfl
    refine ⟨_, keyFor_eq_ok_iff.2 (Database.find?_eq_some_of_unique hfound ?_ hunique), rfl⟩
    exact beq_iff_eq.2 hrecordId

/-- Acceptable parts are read back from the token that they make. -/
theorem Accepts.parse?_render {c : TokenConfig} {db : Database} {projectId : Uuid} {now : Int}
    {t : CompactToken} {claims : SessionClaims} {userId sessionId organizationId : Uuid}
    (h : Accepts c db projectId now t claims userId sessionId organizationId) :
    CompactToken.parse? t.render = some t := by
  refine CompactToken.parse?_eq_some_iff.2 ⟨rfl, ?_, ?_⟩
  · obtain ⟨ms, hpayload, -⟩ := h.carries
    exact CompactToken.dot_not_mem_of_partJson? hpayload
  · obtain ⟨keyId, key, -, -, signature, hsignature, -⟩ := h.signed
    exact CompactToken.dot_not_mem_of_decode? hsignature

/-- With the active keys at hand, an examination accepts exactly the tokens with acceptable
parts. -/
theorem examine_eq_ok_iff {c : TokenConfig} {projectId : Uuid} {keys : List SessionPublicKey}
    {db : Database} {token : String} {now : Int} {claims : SessionClaims}
    {userId sessionId organizationId : Uuid}
    (hkeys : ∀ kid keyId key, (∃ found, keyFor keys kid keyId = .ok found ∧
      found.publicKey = key) ↔ ActiveKey db projectId now keyId key) :
    examine c projectId keys token now = .ok (claims, userId, sessionId, organizationId) ↔
      ∃ t, token = CompactToken.render t ∧
        Accepts c db projectId now t claims userId sessionId organizationId := by
  rw [examine]
  constructor
  · intro h
    obtain ⟨⟨kid, keyId⟩, hkey, h⟩ := Traversal.bind_eq_ok_iff.1 h
    obtain ⟨found, hfound, h⟩ := Traversal.bind_eq_ok_iff.1 h
    obtain ⟨claims', hclaims, h⟩ := Traversal.bind_eq_ok_iff.1 h
    obtain ⟨_, htimes, h⟩ := Traversal.bind_eq_ok_iff.1 h
    obtain ⟨ids, hids, h⟩ := Traversal.bind_eq_ok_iff.1 h
    obtain ⟨rfl, rfl⟩ := Prod.mk.inj (Except.ok.inj h)
    obtain ⟨-, t, ht, hnames⟩ := keyOf_eq_ok_iff.1 hkey
    -- The token is cut twice, for its header and for its claims, and both times into these parts.
    obtain ⟨t', ht', hsigned, hcarries, hexp, haudience⟩ := signedClaims_eq_ok_iff.1 hclaims
    obtain rfl := Option.some.inj (ht'.symm.trans ht)
    obtain ⟨hexpired, hbegun⟩ := checkTimes_eq_ok_iff.1 htimes
    obtain ⟨huser, hsession, horganization⟩ := claimIds_eq_ok_iff.1 hids
    have hactive := (hkeys kid keyId found.publicKey).1 ⟨found, hfound, rfl⟩
    exact ⟨t', (CompactToken.parse?_eq_some_iff.1 ht).1,
      ⟨keyId, found.publicKey, hnames, hactive, hsigned⟩, hcarries, hexp, haudience, hexpired,
      hbegun, huser, hsession, horganization⟩
  · rintro ⟨t, rfl, h⟩
    obtain ⟨keyId, key, hnames, hactive, hsigned⟩ := h.signed
    have hparse := h.parse?_render
    obtain ⟨found, hfound, rfl⟩ := (hkeys (IdFormat.signingKey.format keyId) keyId key).2 hactive
    have hkey := keyOf_eq_ok_iff.2 ⟨rfl, t, hparse, hnames⟩
    have hclaims := signedClaims_eq_ok_iff.2
      ⟨t, hparse, hsigned, h.carries, h.expNonneg, h.audience⟩
    have htimes := checkTimes_eq_ok_iff.2 ⟨h.notExpired, h.begun⟩
    have hids := claimIds_eq_ok_iff.2 ⟨h.user, h.session, h.organization⟩
    refine Traversal.bind_eq_ok_iff.2 ⟨_, hkey, Traversal.bind_eq_ok_iff.2 ⟨_, hfound, ?_⟩⟩
    refine Traversal.bind_eq_ok_iff.2 ⟨_, hclaims, Traversal.bind_eq_ok_iff.2 ⟨_, htimes, ?_⟩⟩
    exact Traversal.bind_eq_ok_iff.2 ⟨_, hids, rfl⟩

/-! ## The outcome -/

omit [Wording] in
theorem backing_of_backs {db : Database} (hdb : db.Conforms) {organizationId projectId : Uuid}
    (h : Backs db organizationId projectId) (claims : SessionClaims) :
    backing claims (db.backedProject organizationId) = .ok projectId := by
  obtain ⟨row, hrow, horganization, hid⟩ := h
  rw [hdb.backedProject_of_mem hrow horganization hid]
  rfl

omit [Wording] in
theorem backing_of_not_backs {db : Database} (hdb : db.Conforms) {organizationId : Uuid}
    (h : ∀ projectId, ¬Backs db organizationId projectId) (claims : SessionClaims) :
    backing claims (db.backedProject organizationId) =
      .error (.integrity s!"organization {claims.organization.id} backs no project") := by
  have hnone : ∀ row ∈ db.projects, row.organizationId ≠ some organizationId.text := by
    intro row hrow horganization
    -- A row with this organization would be managed by it, since its id has the written form.
    obtain ⟨projectId, hid⟩ := hdb.projectTexts row hrow
    exact h projectId ⟨row, hrow, horganization, hid.symm⟩
  rw [hdb.backedProject_of_not_mem hnone]
  rfl

section Outcome

variable {c : TokenConfig} {db : Database} {projectId : Uuid} {now : Int} {token : String}
  {userId sessionId organizationId : Uuid}

/-- The keys that a project has at a time can be read. -/
def KeysReadable (db : Database) (projectId : Uuid) (now : Int) : Prop :=
  ∀ row ∈ db.activeKeyRows projectId now,
    ∃ key, PublicKey.ofSubjectPublicKeyInfo row.publicKey = .ok key

/-- An acceptable token leads to the lookup of the project. -/
theorem verdict_of_accepted (hdb : db.Conforms) (hkeys : KeysReadable db projectId now)
    (hleeway : c.leeway < Limit.bits63)
    (h : Accepted c db projectId now token userId sessionId organizationId) :
    ∃ claims : SessionClaims,
      claims.organization.id = IdFormat.organization.format organizationId ∧
      verdict c projectId token now db =
        (backing claims (db.backedProject organizationId) >>= fun project =>
          .ok ⟨userId, sessionId, organizationId, project⟩) := by
  obtain ⟨t, claims, htoken, haccepts⟩ := h
  obtain ⟨keys, hread, hfind⟩ := exists_activeKeys hdb hkeys
  have hexamine := (examine_eq_ok_iff hfind).2 ⟨t, htoken, haccepts⟩
  refine ⟨claims, haccepts.organization, ?_⟩
  rw [verdict_eq token hread hleeway, hexamine]
  rfl

theorem verdict_of_backs (hdb : db.Conforms) (hkeys : KeysReadable db projectId now)
    (hleeway : c.leeway < Limit.bits63)
    (h : Accepted c db projectId now token userId sessionId organizationId) {project : Uuid}
    (hbacks : Backs db organizationId project) :
    verdict c projectId token now db = .ok ⟨userId, sessionId, organizationId, project⟩ := by
  obtain ⟨claims, -, hverdict⟩ := verdict_of_accepted hdb hkeys hleeway h
  rw [hverdict, backing_of_backs hdb hbacks]
  rfl

/-- What is said of an organization that manages no project. -/
def unbacked (organizationId : Uuid) : SessionError :=
  .integrity s!"organization {IdFormat.organization.format organizationId} backs no project"

theorem verdict_of_not_backs (hdb : db.Conforms) (hkeys : KeysReadable db projectId now)
    (hleeway : c.leeway < Limit.bits63)
    (h : Accepted c db projectId now token userId sessionId organizationId)
    (hbacks : ∀ project, ¬Backs db organizationId project) :
    verdict c projectId token now db = .error (unbacked organizationId) := by
  obtain ⟨claims, horganization, hverdict⟩ := verdict_of_accepted hdb hkeys hleeway h
  rw [hverdict, backing_of_not_backs hdb hbacks, horganization]
  rfl

theorem verdict_of_not_accepted (hdb : db.Conforms) (hkeys : KeysReadable db projectId now)
    (hleeway : c.leeway < Limit.bits63)
    (h : ∀ userId sessionId organizationId,
      ¬Accepted c db projectId now token userId sessionId organizationId) :
    verdict c projectId token now db = .error .authenticationFailed := by
  obtain ⟨keys, hread, hfind⟩ := exists_activeKeys hdb hkeys
  rw [verdict_eq token hread hleeway]
  cases hexamine : examine c projectId keys token now with
  | error e => rfl
  | ok found =>
    obtain ⟨claims, userId, sessionId, organizationId⟩ := found
    obtain ⟨t, htoken, haccepts⟩ := (examine_eq_ok_iff hfind).1 hexamine
    exact absurd ⟨t, claims, htoken, haccepts⟩ (h userId sessionId organizationId)

/-- The three outcomes, each with the tokens that have it. -/
theorem verdict_cases (c : TokenConfig) (token : String) (hdb : db.Conforms)
    (hkeys : KeysReadable db projectId now) (hleeway : c.leeway < Limit.bits63) :
    (∃ userId sessionId organizationId project,
      Accepted c db projectId now token userId sessionId organizationId ∧
      Backs db organizationId project ∧ verdict c projectId token now db =
        .ok ⟨userId, sessionId, organizationId, project⟩) ∨
    (∃ userId sessionId organizationId,
      Accepted c db projectId now token userId sessionId organizationId ∧
      (∀ project, ¬Backs db organizationId project) ∧
      verdict c projectId token now db = .error (unbacked organizationId)) ∨
    ((∀ userId sessionId organizationId,
      ¬Accepted c db projectId now token userId sessionId organizationId) ∧
      verdict c projectId token now db = .error .authenticationFailed) := by
  by_cases haccepted : ∃ userId sessionId organizationId,
      Accepted c db projectId now token userId sessionId organizationId
  · obtain ⟨userId, sessionId, organizationId, haccepted⟩ := haccepted
    by_cases hbacks : ∃ project, Backs db organizationId project
    · obtain ⟨project, hbacks⟩ := hbacks
      exact .inl ⟨userId, sessionId, organizationId, project, haccepted, hbacks,
        verdict_of_backs hdb hkeys hleeway haccepted hbacks⟩
    · have hnone := not_exists.1 hbacks
      exact .inr (.inl ⟨userId, sessionId, organizationId, haccepted, hnone,
        verdict_of_not_backs hdb hkeys hleeway haccepted hnone⟩)
  · have hnone : ∀ userId sessionId organizationId,
        ¬Accepted c db projectId now token userId sessionId organizationId :=
      fun userId sessionId organizationId h =>
        haccepted ⟨userId, sessionId, organizationId, h⟩
    exact .inr (.inr ⟨hnone, verdict_of_not_accepted hdb hkeys hleeway hnone⟩)

theorem verdict_eq_ok_iff (hdb : db.Conforms) (hkeys : KeysReadable db projectId now)
    (hleeway : c.leeway < Limit.bits63) {identity : SessionIdentity} :
    verdict c projectId token now db = .ok identity ↔
      Accepted c db projectId now token identity.userId identity.sessionId
        identity.organizationId ∧
      Backs db identity.organizationId identity.projectId := by
  constructor
  · intro h
    rcases verdict_cases c token hdb hkeys hleeway with
      ⟨userId, sessionId, organizationId, project, haccepted, hbacks, hverdict⟩ |
      ⟨_, _, _, _, _, hverdict⟩ | ⟨_, hverdict⟩
    · rw [hverdict] at h
      obtain rfl := Except.ok.inj h
      exact ⟨haccepted, hbacks⟩
    · rw [hverdict] at h
      cases h
    · rw [hverdict] at h
      cases h
  · rintro ⟨haccepted, hbacks⟩
    exact verdict_of_backs hdb hkeys hleeway haccepted hbacks

theorem verdict_eq_integrity_iff (hdb : db.Conforms) (hkeys : KeysReadable db projectId now)
    (hleeway : c.leeway < Limit.bits63) :
    (∃ detail, verdict c projectId token now db = .error (.integrity detail)) ↔
      ∃ userId sessionId organizationId,
        Accepted c db projectId now token userId sessionId organizationId ∧
        ∀ project, ¬Backs db organizationId project := by
  constructor
  · rintro ⟨detail, h⟩
    rcases verdict_cases c token hdb hkeys hleeway with
      ⟨_, _, _, _, _, _, hverdict⟩ |
      ⟨userId, sessionId, organizationId, haccepted, hbacks, -⟩ | ⟨_, hverdict⟩
    · rw [hverdict] at h
      cases h
    · exact ⟨userId, sessionId, organizationId, haccepted, hbacks⟩
    · rw [hverdict] at h
      cases h
  · rintro ⟨userId, sessionId, organizationId, haccepted, hbacks⟩
    exact ⟨_, verdict_of_not_backs hdb hkeys hleeway haccepted hbacks⟩

theorem verdict_eq_authenticationFailed_iff (hdb : db.Conforms)
    (hkeys : KeysReadable db projectId now) (hleeway : c.leeway < Limit.bits63) :
    verdict c projectId token now db = .error .authenticationFailed ↔
      ∀ userId sessionId organizationId,
        ¬Accepted c db projectId now token userId sessionId organizationId := by
  constructor
  · intro h
    rcases verdict_cases c token hdb hkeys hleeway with
      ⟨_, _, _, _, _, _, hverdict⟩ | ⟨_, _, _, _, _, hverdict⟩ | ⟨hnone, -⟩
    · rw [hverdict] at h
      cases h
    · rw [hverdict] at h
      cases h
    · exact hnone
  · intro hnone
    exact verdict_of_not_accepted hdb hkeys hleeway hnone

end Outcome

end SessionToken
end Gatehouse
