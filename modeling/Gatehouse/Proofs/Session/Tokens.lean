import Gatehouse.Proofs.Session.Issuance
import Gatehouse.Proofs.Session.Service

/-!
# Session tokens, from issue to verification

Verification has three outcomes: it identifies the session, it finds that the organization manages
no project, or it refuses the token without saying why. Which one a token has is decided by its
parts, the active keys and the clock. For a token that the service has issued only the clock and
the organization are left to decide, in every state that the service gets into afterwards.
-/

namespace Gatehouse

/-- A signature that is made with a key pair belongs to its public half. -/
def Ecdsa.Agrees (pair : PrivateKey) (seed message : Bytes) : Prop :=
  verify pair.publicKey message (sign pair seed message) = true

namespace SessionToken

variable {σ : Type} {c : TokenConfig}

/-! ## Issued tokens in later states -/

/-- A clock stands where a token that was issued at `now` under the key in `row` is acceptable: it
has reached the beginning of the token's life and not its end, up to the leeway, and the key has not
expired. -/
structure Timely (c : TokenConfig) (row : SigningKeyRow) (now time : Int) : Prop where
  begun : now ≤ time + c.leeway
  notExpired : time - c.leeway < now + c.accessTokenTtl
  keyActive : time < row.expiresAt

/-- A token names the key in a row and is signed with it. -/
def SignedUnder [Wording] (row : SigningKeyRow) (token : String) : Prop :=
  ∃ t signer key, token = CompactToken.render t ∧ Names t.header signer ∧ row.id = signer.text ∧
    PublicKey.ofSubjectPublicKeyInfo row.publicKey = .ok key ∧ Signed key t

/-- In every later state an issued token is accepted with the ids of its subject, exactly while the
clock is right. -/
theorem accepted_issued_iff [Wording] {p : KeyProtector σ} {db db' : Database}
    (subject : SessionSubject) (time : Int) {now : Int} {row : SigningKeyRow} {signer : Uuid} {pair : PrivateKey}
    {seed : Bytes} {userId sessionId organizationId : Uuid} (hnow : 0 ≤ now)
    (hend : now + c.accessTokenTtl < Limit.bits63) (hdb : Service.Reachable p db)
    (hleads : Service.Leads p db db') (hrow : row ∈ db.activeKeyRows subject.projectId now)
    (hid : row.id = signer.text) (hmade : row.MadeFrom p pair)
    (hagrees : Ecdsa.Agrees pair seed
      (covered (headerFor signer) (claimsOf c subject c.accessTokenTtl now))) :
    Accepted c db' subject.projectId time
        (sign pair seed (headerFor signer) (claimsOf c subject c.accessTokenTtl now)).render
        userId sessionId organizationId ↔
      (userId = subject.userId ∧ sessionId = subject.sessionId ∧
        organizationId = subject.organizationId) ∧ Timely c row now time := by
  obtain ⟨hmem, hproject, -⟩ := Database.mem_activeKeyRows.1 hrow
  have hmem' : row ∈ db'.signingKeys := by
    obtain ⟨rows, hrows, -⟩ := hleads.signingKeys hdb.store
    rw [hrows]
    exact List.mem_append_left _ hmem
  have hconforms := (hleads.reachable hdb.store).conforms
  rw [accepted_sign_iff hnow (Int.natCast_nonneg _) hend rfl]
  constructor
  · rintro ⟨hids, ⟨key, ⟨other, hother, hotherId, -, hexpires, -⟩, -⟩, hbegun, hnotExpired⟩
    -- The id is that of one row only, so the active row is the one that has signed.
    have hsame : other = row :=
      Database.eq_of_nodup_map hconforms.keyIds hother hmem' (hotherId.trans hid.symm)
    rw [hsame] at hexpires
    exact ⟨hids, hbegun, hnotExpired, hexpires⟩
  · rintro ⟨hids, htimely⟩
    have hactive : ActiveKey db' subject.projectId time signer pair.publicKey :=
      ⟨row, hmem', hid, hproject, htimely.keyActive, hmade.readable⟩
    exact ⟨hids, ⟨pair.publicKey, hactive, signed_sign_iff.2 hagrees⟩, htimely.begun,
      htimely.notExpired⟩

/-! ## A console and a token of it -/

section Sample

open Provisioning Service

/-- A console to be made. -/
def sampleRequest : ConsoleRequest := ⟨"root", "console", "console"⟩

/-- The world with the console; its key is active for 1000 seconds. -/
def sampleWorld : World Unit :=
  (Operation.createConsole 1000 id sampleRequest sampleDraw 0).after .clear
    { tables := .empty, protector := () }

/-- The owner of the console, in a session with the identifier 4. -/
def sampleSubject : SessionSubject where
  projectId := .ofNat 1
  organizationId := .ofNat 2
  userId := .ofNat 3
  sessionId := .ofNat 4

/-- A token for the owner. -/
def sampleToken : CompactToken :=
  sign (.ofSeed [1]) [2] (headerFor (.ofNat 5))
    (claimsOf {} sampleSubject ({} : TokenConfig).accessTokenTtl 0)

/-- The row of the console's key. -/
def sampleRow : SigningKeyRow :=
  (bootstrapKey 1000 sampleDraw 0 (PrivateKey.ofSeed [1]).toPkcs8).row

theorem reachable_sampleWorld : Reachable .clear sampleWorld.tables :=
  .step (w := { tables := .empty, protector := () }) _ .refl

theorem tables_sampleWorld : sampleWorld.tables =
    (consoleProject sampleRequest sampleDraw (bootstrapPassword [])
      (bootstrapKey 1000 sampleDraw 0 (PrivateKey.ofSeed [1]).toPkcs8) 0).tables :=
  tables_createConsole rfl (by decide +kernel) (by decide) rfl

theorem signingKeys_sampleWorld : sampleWorld.tables.signingKeys = [sampleRow] := by
  rw [tables_sampleWorld]
  rfl

theorem activeKeyRows_sampleWorld :
    sampleWorld.tables.activeKeyRows (.ofNat 1) 0 = [sampleRow] := by
  rw [tables_sampleWorld]
  have hfilter : [sampleRow].filter
      (fun k => k.projectId == (Uuid.ofNat 1).text && 0 < k.expiresAt) = [sampleRow] := by
    simp [sampleRow, bootstrapKey, SigningKey.row, sampleDraw]
  rw [Database.activeKeyRows]
  show ([sampleRow].filter _).reverse.mergeSort _ = _
  rw [hfilter, List.reverse_singleton, List.mergeSort_singleton]

theorem madeFrom_sampleRow : sampleRow.MadeFrom .clear (.ofSeed [1]) :=
  ⟨rfl, (), rfl⟩

theorem agrees_sampleToken : Ecdsa.Agrees (.ofSeed [1]) [2]
    (covered (headerFor (.ofNat 5))
      (claimsOf {} sampleSubject ({} : TokenConfig).accessTokenTtl 0)) := by
  rw [covered_eq, Ecdsa.Agrees]
  decide +kernel

theorem backs_sampleWorld : Backs sampleWorld.tables (.ofNat 2) (.ofNat 1) := by
  rw [tables_sampleWorld]
  exact ⟨_, List.mem_singleton.2 rfl, rfl, rfl⟩

/-- The console signs with its key. -/
theorem signingKey_sampleWorld : ∃ mid,
    ((SigningKeys.mk .clear 1000).signingKey sampleSubject.projectId 0).run sampleWorld =
      (.ok (.ofNat 5, .ofSeed [1]), mid) :=
  signingKey_of_active reachable_sampleWorld.store.conforms activeKeyRows_sampleWorld rfl rfl
    (PrivateKey.ofPkcs8_toPkcs8 _)

/-- The console issues the token to its owner. -/
theorem issue_sampleSubject :
    ((issue ⟨.clear, 1000⟩ {} [2] sampleSubject 0).run sampleWorld).1 =
      .ok ⟨sampleToken.render, 300⟩ := by
  obtain ⟨mid, hkey⟩ := signingKey_sampleWorld
  exact issue_of_signingKey sampleSubject [2] (by decide) hkey

/-- The token is acceptable in its last second. -/
theorem accepted_sampleToken : Accepted {} sampleWorld.tables (.ofNat 1) 299 sampleToken.render
    (.ofNat 3) (.ofNat 4) (.ofNat 2) := by
  have hrow : sampleRow ∈ sampleWorld.tables.activeKeyRows (.ofNat 1) 0 := by
    rw [activeKeyRows_sampleWorld]
    exact List.mem_singleton.2 rfl
  exact (accepted_issued_iff sampleSubject 299 (Int.le_refl 0) (by decide) reachable_sampleWorld
    .refl hrow rfl madeFrom_sampleRow agrees_sampleToken).2
    ⟨⟨rfl, rfl, rfl⟩, by decide, by decide, by decide⟩

/-- The console verifies the token in its last second. -/
theorem verdict_sampleToken : verdict {} (.ofNat 1) sampleToken.render 299 sampleWorld.tables =
    .ok ⟨.ofNat 3, .ofNat 4, .ofNat 2, .ofNat 1⟩ :=
  verdict_of_backs reachable_sampleWorld.store.conforms (reachable_sampleWorld.keysReadable _ _)
    (by decide) accepted_sampleToken backs_sampleWorld

end Sample

/-! ## Verification -/

/-- **Exact acceptance.** Verification gives an identity exactly for an acceptable token whose
organization manages the project in it. An acceptable token whose organization manages no project is
reported as such, and every other token is refused with one and the same failure. -/
theorem verify_outcome [Wording] {w : World σ} {projectId : Uuid} {token : String} {now : Int}
    (hdb : w.tables.Conforms) (hkeys : KeysReadable w.tables projectId now)
    (hleeway : c.leeway < Limit.bits63) :
    let outcome := ((verify c projectId token now).run w).1
    let AcceptedAs := Accepted c w.tables projectId now token
    (∀ identity, outcome = .ok identity ↔
      AcceptedAs identity.userId identity.sessionId identity.organizationId ∧
      Backs w.tables identity.organizationId identity.projectId) ∧
    ((∃ detail, outcome = .error (.integrity detail)) ↔
      ∃ userId sessionId organizationId, AcceptedAs userId sessionId organizationId ∧
        ∀ project, ¬Backs w.tables organizationId project) ∧
    (outcome = .error .authenticationFailed ↔
      ∀ userId sessionId organizationId, ¬AcceptedAs userId sessionId organizationId) := by
  intro outcome AcceptedAs
  have hread : outcome = verdict c projectId token now w.tables :=
    (reads_verify c projectId token now w).1
  rw [hread]
  refine ⟨fun identity => ?_, ?_, ?_⟩
  · exact verdict_eq_ok_iff hdb hkeys hleeway
  · exact verdict_eq_integrity_iff hdb hkeys hleeway
  · exact verdict_eq_authenticationFailed_iff hdb hkeys hleeway

/-- The token of the console's owner is verified while it lives. -/
theorem verify_sampleToken : ((verify {} (.ofNat 1) sampleToken.render 299).run sampleWorld).1 =
    .ok ⟨.ofNat 3, .ofNat 4, .ofNat 2, .ofNat 1⟩ :=
  ((verify_outcome reachable_sampleWorld.store.conforms (reachable_sampleWorld.keysReadable _ _)
    (by decide)).1 _).2 ⟨accepted_sampleToken, backs_sampleWorld⟩

/-! ## Issue and verification -/

/-- **Issue, then verify.** A token that the service issues is signed with the first active key of
its project. In every later state and at every time it is verified with exactly the ids of its
subject and the project that the organization manages then, if the clock is right and there is such
a project; it is refused if the clock is not right, and reported if only the project is missing. -/
theorem verify_issued [Wording] {p : KeyProtector σ} {lifetime : Nat} {seed : Bytes}
    (subject : SessionSubject) {now : Int} {w : World σ} {issued : IssuedToken}
    (hp : p.Inverts) (hw : Service.Reachable p w.tables) (hnow : 0 ≤ now)
    (hend : now + c.accessTokenTtl < Limit.bits63) (hleeway : c.leeway < Limit.bits63)
    (hagrees : ∀ signer pair,
      (((SigningKeys.mk p lifetime).signingKey subject.projectId now).run w).1 =
        .ok (signer, pair) →
      Ecdsa.Agrees pair seed
        (covered (headerFor signer) (claimsOf c subject c.accessTokenTtl now)))
    (hissue : ((issue ⟨p, lifetime⟩ c seed subject now).run w).1 = .ok issued) :
    ∃ row rest, w.tables.activeKeyRows subject.projectId now = row :: rest ∧
      SignedUnder row issued.accessToken ∧
      ∀ (w' : World σ) (time : Int), Service.Leads p w.tables w'.tables →
        let outcome := ((verify c subject.projectId issued.accessToken time).run w').1
        (∀ identity, outcome = .ok identity ↔ Timely c row now time ∧
          identity.userId = subject.userId ∧ identity.sessionId = subject.sessionId ∧
          identity.organizationId = subject.organizationId ∧
          Backs w'.tables subject.organizationId identity.projectId) ∧
        (outcome = .error .authenticationFailed ↔ ¬Timely c row now time) ∧
        ((∃ detail, outcome = .error (.integrity detail)) ↔ Timely c row now time ∧
          ∀ project, ¬Backs w'.tables subject.organizationId project) := by
  obtain ⟨signer, pair, mid, hkey, htoken⟩ := issue_eq_ok (Prod.ext hissue rfl)
  obtain ⟨row, rest, hrows, hid, hmade⟩ := Service.Reachable.signingKey_eq_ok hp hw hkey
  have hsigned : SignedUnder row issued.accessToken :=
    ⟨_, signer, pair.publicKey, htoken, names_encodePart_iff.2 rfl, hid, hmade.readable,
      signed_sign_iff.2 (hagrees signer pair (congrArg Prod.fst hkey))⟩
  refine ⟨row, rest, hrows, hsigned, fun w' time hleads => ?_⟩
  intro outcome
  -- Everything that verification asks for is known of the token but the clock and the backing.
  have hrow : row ∈ w.tables.activeKeyRows subject.projectId now := by
    rw [hrows]
    exact List.mem_cons_self
  have haccepted : ∀ userId sessionId organizationId,
      Accepted c w'.tables subject.projectId time issued.accessToken userId sessionId
        organizationId ↔ (userId = subject.userId ∧ sessionId = subject.sessionId ∧
          organizationId = subject.organizationId) ∧ Timely c row now time := by
    intro userId sessionId organizationId
    rw [htoken]
    exact accepted_issued_iff subject time hnow hend hw hleads hrow hid hmade
      (hagrees signer pair (congrArg Prod.fst hkey))
  have hread : outcome = verdict c subject.projectId issued.accessToken time w'.tables :=
    (reads_verify c subject.projectId issued.accessToken time w').1
  have hlater : Service.Reachable p w'.tables := hw.trans hleads
  have hconforms := hlater.store.conforms
  have hkeys := hlater.keysReadable subject.projectId time
  rw [hread]
  refine ⟨fun identity => ?_, ?_, ?_⟩
  · rw [verdict_eq_ok_iff hconforms hkeys hleeway, haccepted]
    constructor
    · rintro ⟨⟨⟨huser, hsession, horganization⟩, htimely⟩, hbacks⟩
      rw [horganization] at hbacks
      exact ⟨htimely, huser, hsession, horganization, hbacks⟩
    · rintro ⟨htimely, huser, hsession, horganization, hbacks⟩
      rw [← horganization] at hbacks
      exact ⟨⟨⟨huser, hsession, horganization⟩, htimely⟩, hbacks⟩
  · rw [verdict_eq_authenticationFailed_iff hconforms hkeys hleeway]
    simp only [haccepted]
    constructor
    · intro hnone htimely
      exact hnone _ _ _ ⟨⟨rfl, rfl, rfl⟩, htimely⟩
    · rintro hlate userId sessionId organizationId ⟨-, htimely⟩
      exact hlate htimely
  · rw [verdict_eq_integrity_iff hconforms hkeys hleeway]
    simp only [haccepted]
    constructor
    · rintro ⟨userId, sessionId, organizationId, ⟨⟨-, -, rfl⟩, htimely⟩, hbacks⟩
      exact ⟨htimely, hbacks⟩
    · rintro ⟨htimely, hbacks⟩
      exact ⟨_, _, _, ⟨⟨rfl, rfl, rfl⟩, htimely⟩, hbacks⟩

/-- The token that the console issues to its owner is verified in its last second and refused in the
next one. -/
theorem verify_issued_sampleSubject :
    ∃ issued, ((issue ⟨.clear, 1000⟩ {} [2] sampleSubject 0).run sampleWorld).1 = .ok issued ∧
      ((verify {} (.ofNat 1) issued.accessToken 299).run sampleWorld).1 =
        .ok ⟨.ofNat 3, .ofNat 4, .ofNat 2, .ofNat 1⟩ ∧
      ((verify {} (.ofNat 1) issued.accessToken 300).run sampleWorld).1 =
        .error .authenticationFailed := by
  obtain ⟨mid, hkey⟩ := signingKey_sampleWorld
  have hagrees : ∀ signer pair,
      (((SigningKeys.mk .clear 1000).signingKey sampleSubject.projectId 0).run sampleWorld).1 =
        .ok (signer, pair) →
      Ecdsa.Agrees pair [2] (covered (headerFor signer)
        (claimsOf {} sampleSubject ({} : TokenConfig).accessTokenTtl 0)) := by
    intro signer pair h
    obtain ⟨rfl, rfl⟩ := Prod.mk.inj (Except.ok.inj (h.symm.trans (congrArg Prod.fst hkey)))
    exact agrees_sampleToken
  obtain ⟨row, rest, hrows, -, hverify⟩ := verify_issued sampleSubject
    KeyProtector.inverts_clear reachable_sampleWorld (Int.le_refl 0) (by decide) (by decide) hagrees
    issue_sampleSubject
  obtain ⟨rfl, -⟩ := List.cons.inj (activeKeyRows_sampleWorld.symm.trans hrows)
  refine ⟨_, issue_sampleSubject, ?_, ?_⟩
  · refine ((hverify sampleWorld 299 .refl).1 _).2 ⟨?_, rfl, rfl, rfl, backs_sampleWorld⟩
    exact ⟨by decide, by decide, by decide⟩
  · refine (hverify sampleWorld 300 .refl).2.1.2 fun htimely => ?_
    exact absurd htimely.notExpired (by decide)

end SessionToken
end Gatehouse
