import Gatehouse.Proofs.Session.Provisioning
import Gatehouse.Proofs.TwoRuns
import Gatehouse.Session.Token

/-!
# Provisioning and signing tell nothing of their secrets

Consoles, projects and signing keys are made twice with the same ids and with different private
halves, passwords and key protectors, and tokens are issued twice with different randomness. What is
told of the secrets is what the key protectors answer, and why what they decrypt cannot be decoded, if
it cannot; in a state that the service has led to it can. A call that fails has said nothing, unless it
is the store that has failed.
-/

namespace Gatehouse

/-- A failure of the session service that comes from the store. -/
def SessionError.OfStore : SessionError → Prop
  | storage _ => True
  | _ => False

namespace Secrecy

open Call (Agree Discreet Mute)

variable {σ : Type} {w v : World σ}

/-! ## Signing keys -/

section Generate

variable {p p' : KeyProtector σ} (lifetime : Nat)

/-- Two key protectors answer the encryption of two new keys alike. -/
def EncryptAlike (p p' : KeyProtector σ) (seed seed' : Bytes) (w v : World σ) : Prop :=
  EndAlike (p.encrypt (PrivateKey.ofSeed seed).toPkcs8 w.protector).1
    (p'.encrypt (PrivateKey.ofSeed seed').toPkcs8 v.protector).1

/-- Two new keys with the same id are the same but for their halves. -/
theorem agree_generate (h : w.Twins v) (keyId projectId : Uuid) (now : Int) (seed seed' : Bytes) :
    Agree (EncryptAlike p p' seed seed' w v) (fun key key' => key.erased = key'.erased)
      (((SigningKeys.mk p lifetime).generate ⟨keyId, seed⟩ projectId now).run w)
      (((SigningKeys.mk p' lifetime).generate ⟨keyId, seed'⟩ projectId now).run v) := by
  rw [SigningKeys.generate, SigningKeys.generate]
  refine ((Call.agree_protect h fun halike => halike).mapError _).bind
    fun blob blob' w' v' _ _ _ h' => ?_
  dsimp only
  by_cases hlifetime : lifetime < Limit.bits63
  · rw [if_pos hlifetime, if_pos hlifetime]
    refine .ok ?_ h'
    simp only [SigningKey.erased]
  · rw [if_neg hlifetime, if_neg hlifetime]
    exact .error _ h'

end Generate

/-! ## Writing what was made -/

section Write

variable {p : Prop}

/-- Two transactions whose statements do the same to erased tables. -/
theorem agree_runAll {ss ss' : List Statement} {t : Statement} (h : w.Twins v)
    (hs : Statement.Erases (.all ss) t) (hs' : Statement.Erases (.all ss') t) :
    Agree p (fun _ _ => True) ((Store.runAll ss).run w) ((Store.runAll ss').run v) := by
  have hsame : (Statement.all ss w.tables).map Database.erased =
      (Statement.all ss' v.tables).map Database.erased := by
    rw [hs, hs', h.tables]
  refine (Call.agree_transact h (fun db db' hdb hdb' => ?_) fun _ => hsame).telling _
  rw [hdb, hdb'] at hsame
  exact Except.ok.inj hsame

theorem agree_storeConsole {q q' : NewConsoleProject} (h : w.Twins v)
    (hq : q.erased = q'.erased) : Agree p (fun _ _ => True)
      ((Store.createConsoleProject q).run w) ((Store.createConsoleProject q').run v) := by
  obtain ⟨hprojectId, -⟩ := NewConsoleProject.mk.inj hq
  refine (agree_runAll h q.erases_statements (hq ▸ q'.erases_statements)).bind
    fun _ _ _ _ _ _ _ h' => Call.agree_emit h' ?_
  rw [hprojectId]

theorem agree_storeProject {q q' : NewProject} (h : w.Twins v) (hq : q.erased = q'.erased) :
    Agree p (fun _ _ => True) ((Store.createProject q).run w) ((Store.createProject q').run v) := by
  obtain ⟨hprojectId, -, horganizationId, -⟩ := NewProject.mk.inj hq
  refine (agree_runAll h q.erases_statements (hq ▸ q'.erases_statements)).bind
    fun _ _ _ _ _ _ _ h' => Call.agree_emit h' ?_
  rw [hprojectId, horganizationId]

theorem agree_storeSigningKey {key key' : SigningKey} (h : w.Twins v)
    (hkey : key.erased = key'.erased) : Agree p (fun _ _ => True)
      ((Store.createSigningKey key).run w) ((Store.createSigningKey key').run v) := by
  obtain ⟨hid, hprojectId, -⟩ := SigningKey.mk.inj hkey
  refine (agree_runAll h key.erases_insert (hkey ▸ key'.erases_insert)).bind
    fun _ _ _ _ _ _ _ h' => Call.agree_emit h' ?_
  rw [hid, hprojectId]

end Write

/-! ## Making consoles, projects and signing keys -/

section Make

variable {p p' : KeyProtector σ} (lifetime : Nat)

/-- A request is checked, a key is made for it, and the key is put to some use. The key protectors are
asked only if the request passes its check. -/
theorem agree_makeKey {α : Type} {f f' : SigningKey → Call σ SessionError α} (h : w.Twins v)
    (check : Except SessionError Unit) (keyId projectId : Uuid) (now : Int) (seed seed' : Bytes)
    (huse : ∀ (condition : Prop) (key key' : SigningKey) (w' v' : World σ),
      key.erased = key'.erased → w'.Twins v' →
        Agree condition (fun _ _ => True) ((f key).run w') ((f' key').run v')) :
    Agree (check = .ok () → EncryptAlike p p' seed seed' w v) (fun _ _ => True)
      ((Call.ofExcept check >>= fun _ =>
        (SigningKeys.mk p lifetime).generate ⟨keyId, seed⟩ projectId now >>= f).run w)
      ((Call.ofExcept check >>= fun _ =>
        (SigningKeys.mk p' lifetime).generate ⟨keyId, seed'⟩ projectId now >>= f').run v) := by
  refine (Call.agree_ofExcept check h).bind fun _ _ w₁ v₁ hcheck hcheck' _ _ => ?_
  -- The check does not touch the worlds, so the key protectors are asked in the first ones.
  obtain ⟨hpassed, rfl⟩ := Prod.mk.inj hcheck
  obtain rfl : v = v₁ := congrArg Prod.snd hcheck'
  have hmade : Agree (EncryptAlike p p' seed seed' w v) _ _ _ :=
    agree_generate lifetime h keyId projectId now seed seed'
  exact (hmade.imp fun halike => halike hpassed).bind
    fun key key' w' v' _ _ hkey h' => huse _ key key' w' v' hkey h'

theorem agree_createConsole (h : w.Twins v) (hash hash' : String → String)
    (r : Provisioning.ConsoleRequest) (projectId organizationId userId keyId : Uuid) (now : Int)
    (password password' seed seed' : Bytes) :
    Agree (r.check = .ok () → EncryptAlike p p' seed seed' w v) (fun _ _ => True)
      ((Provisioning.createConsole ⟨p, lifetime⟩ hash r
        ⟨projectId, organizationId, userId, password, ⟨keyId, seed⟩⟩ now).run w)
      ((Provisioning.createConsole ⟨p', lifetime⟩ hash' r
        ⟨projectId, organizationId, userId, password', ⟨keyId, seed'⟩⟩ now).run v) := by
  refine agree_makeKey lifetime h r.check keyId projectId now seed seed'
    fun _ key key' _ _ hkey h₁ => ?_
  refine ((agree_storeConsole h₁ ?_).mapError _).bind fun _ _ _ _ _ _ _ h₂ => ?_
  · simp only [NewConsoleProject.erased, Provisioning.consoleProject, hkey]
  · exact (Call.agree_emit h₂ rfl).bind fun _ _ _ _ _ _ _ h₃ => .ok trivial h₃

theorem agree_createProject (h : w.Twins v) (r : Provisioning.ProjectRequest)
    (projectId organizationId keyId : Uuid) (now : Int) (seed seed' : Bytes) :
    Agree (r.check = .ok () → EncryptAlike p p' seed seed' w v) (fun _ _ => True)
      ((Provisioning.createProject ⟨p, lifetime⟩ r
        ⟨projectId, organizationId, ⟨keyId, seed⟩⟩ now).run w)
      ((Provisioning.createProject ⟨p', lifetime⟩ r
        ⟨projectId, organizationId, ⟨keyId, seed'⟩⟩ now).run v) := by
  refine agree_makeKey lifetime h r.check keyId projectId now seed seed'
    fun _ key key' _ _ hkey h₁ => ?_
  refine ((agree_storeProject h₁ ?_).mapError _).bind fun _ _ _ _ _ _ _ h₂ => ?_
  · simp only [NewProject.erased, Provisioning.tenantProject, hkey]
  · exact (Call.agree_emit h₂ rfl).bind fun _ _ _ _ _ _ _ h₃ => .ok trivial h₃

theorem agree_createSigningKey [Wording] (h : w.Twins v) (keyId projectId : Uuid) (now : Int)
    (seed seed' : Bytes) :
    Agree (EncryptAlike p p' seed seed' w v) (fun _ _ => True)
      (((SigningKeys.mk p lifetime).create ⟨keyId, seed⟩ projectId now).run w)
      (((SigningKeys.mk p' lifetime).create ⟨keyId, seed'⟩ projectId now).run v) := by
  rw [SigningKeys.create, SigningKeys.create]
  refine (agree_generate lifetime h keyId projectId now seed seed').bind
    fun key key' _ _ hmade hmade' hkey h₁ => ?_
  obtain ⟨hid, -, -, -, hexpires, -⟩ := SigningKey.mk.inj hkey
  refine ((agree_storeSigningKey h₁ hkey).mapError _).bind fun _ _ _ _ _ _ _ h₂ => ?_
  refine (Call.agree_emit h₂ (by rw [hid, hexpires])).bind fun _ _ _ _ _ _ _ h₃ => ?_
  -- The public halves differ, but both can be read.
  rw [Provisioning.ofRecord_of_generate _ hmade, Provisioning.ofRecord_of_generate _ hmade']
  exact .ok trivial h₃

end Make

/-! ## Issuing tokens -/

section Issue

variable (p p' : KeyProtector σ) (lifetime : Nat) (projectId : Uuid) (now : Int)

/-- Two key protectors answer alike when they are asked to decrypt the private halves of two keys. -/
def DecryptAlike (blob blob' : Bytes) (w v : World σ) : Prop :=
  EndAlike (p.decrypt blob w.protector).1 (p'.decrypt blob' v.protector).1

/-- Two key protectors read the private halves of two keys alike: they answer alike, and what they
decrypt can be decoded for both keys, or for none and for the same reason. -/
def ReadAlike [Wording] (blob blob' : Bytes) (w v : World σ) : Prop :=
  DecryptAlike p p' blob blob' w v ∧
    ∀ bytes bytes', (p.decrypt blob w.protector).1 = .ok bytes →
      (p'.decrypt blob' v.protector).1 = .ok bytes' →
        EndAlike (PrivateKey.ofPkcs8 bytes) (PrivateKey.ofPkcs8 bytes')

/-- The ciphertexts of the keys that a project signs with are alike in two worlds. -/
def SignersAlike (alike : Bytes → Bytes → World σ → World σ → Prop) (w v : World σ) : Prop :=
  ∀ record records record' records',
    w.tables.activeSigningKeys projectId now = .ok (record :: records) →
    v.tables.activeSigningKeys projectId now = .ok (record' :: records') →
      alike record.privateKeyCiphertext record'.privateKeyCiphertext w v

/-- What is read of the active keys is the same but for their halves. -/
theorem agree_activeSigningKeys {condition : Prop} (h : w.Twins v) :
    Agree condition (fun keys keys' => keys.map SigningKey.erased = keys'.map SigningKey.erased)
      ((Store.activeSigningKeys projectId now).run w)
      ((Store.activeSigningKeys projectId now).run v) := by
  have hsame : (w.tables.activeSigningKeys projectId now).map (List.map SigningKey.erased) =
      (v.tables.activeSigningKeys projectId now).map (List.map SigningKey.erased) := by
    rw [← Database.activeSigningKeys_erased, ← Database.activeSigningKeys_erased, h.tables]
  refine Call.agree_read h (fun keys keys' hkeys hkeys' => ?_) fun _ => endAlike_of_map_eq hsame
  rw [hkeys, hkeys'] at hsame
  exact Except.ok.inj hsame

/-- The key that signs has the same id in twin worlds. -/
theorem agree_signingKey [Wording] (h : w.Twins v) :
    Agree (SignersAlike projectId now (ReadAlike p p') w v)
      (fun signer signer' => signer.1 = signer'.1)
      (((SigningKeys.mk p lifetime).signingKey projectId now).run w)
      (((SigningKeys.mk p' lifetime).signingKey projectId now).run v) := by
  rw [SigningKeys.signingKey, SigningKeys.signingKey]
  refine ((agree_activeSigningKeys projectId now h).mapError _).bind
    fun records records' w₁ v₁ hfound hfound' hrecords _ => ?_
  -- Reading the tables does not touch the worlds, so it is in the first ones that keys are decrypted.
  obtain ⟨hactive, rfl⟩ := Store.run_read_eq_ok_iff.1 (Call.run_mapError_eq_ok_iff.1 hfound)
  obtain ⟨hactive', rfl⟩ := Store.run_read_eq_ok_iff.1 (Call.run_mapError_eq_ok_iff.1 hfound')
  cases records with
  | nil =>
    cases records' with
    | nil => exact .error _ h
    | cons record' records' => cases hrecords
  | cons record records =>
    cases records' with
    | nil => cases hrecords
    | cons record' records' =>
      obtain ⟨hrecord, -⟩ := List.cons.inj hrecords
      obtain ⟨hid, -⟩ := SigningKey.mk.inj hrecord
      dsimp only
      refine ((Call.agree_protect h fun halike =>
        (halike _ _ _ _ hactive hactive').1).mapError _).bind
          fun bytes bytes' w₂ v₂ hdecrypt hdecrypt' _ h₂ => ?_
      have hbytes := congrArg Prod.fst (Call.run_mapError_eq_ok_iff.1 hdecrypt)
      have hbytes' := congrArg Prod.fst (Call.run_mapError_eq_ok_iff.1 hdecrypt')
      refine Agree.bind (.result (R := fun _ _ => True) h₂ (fun _ _ _ _ => trivial) fun halike =>
        ((halike _ _ _ _ hactive hactive').2 bytes bytes' hbytes hbytes').mapError _)
          fun pair pair' _ _ _ _ _ h₃ => ?_
      exact (Call.agree_emit h₃ (by rw [hid])).bind fun _ _ _ _ _ _ _ h₄ => .ok hid h₄

theorem agree_issue [Wording] (h : w.Twins v) (config : TokenConfig) (subject : SessionSubject)
    (seed seed' : Bytes) :
    Agree (SignersAlike subject.projectId now (ReadAlike p p') w v) (fun _ _ => True)
      ((SessionToken.issue ⟨p, lifetime⟩ config seed subject now).run w)
      ((SessionToken.issue ⟨p', lifetime⟩ config seed' subject now).run v) := by
  rw [SessionToken.issue, SessionToken.issue]
  refine (Call.agree_ofExcept _ h).bind fun ttl ttl' w₁ v₁ hclock hclock' httl _ => ?_
  subst httl
  obtain rfl : w = w₁ := congrArg Prod.snd hclock
  obtain rfl : v = v₁ := congrArg Prod.snd hclock'
  refine (agree_signingKey p p' lifetime subject.projectId now h).bind
    fun signer signer' _ _ _ _ hid h₁ => ?_
  obtain ⟨keyId, pair⟩ := signer
  obtain ⟨keyId', pair'⟩ := signer'
  obtain rfl : keyId = keyId' := hid
  exact (Call.agree_emit h₁ rfl).bind fun _ _ _ _ _ _ _ h₂ => .ok trivial h₂

/-- What the service has stored can be decoded once it is decrypted, so that only the answers of the
key protectors count. -/
theorem signersAlike_of_reachable [Wording] (hp : p.Inverts) (hp' : p'.Inverts)
    (hw : Service.Reachable p w.tables) (hv : Service.Reachable p' v.tables)
    (h : SignersAlike projectId now (DecryptAlike p p') w v) :
    SignersAlike projectId now (ReadAlike p p') w v := by
  intro record records record' records' hactive hactive'
  refine ⟨h _ _ _ _ hactive hactive', fun bytes bytes' hdecrypt hdecrypt' => ?_⟩
  obtain ⟨pair, hpair⟩ := hw.ofPkcs8_of_active hp hactive hdecrypt
  obtain ⟨pair', hpair'⟩ := hv.ofPkcs8_of_active hp' hactive' hdecrypt'
  rw [hpair, hpair']
  exact endAlike_ok pair pair'

end Issue

/-! ## Failures -/

section Failures

variable (keys : SigningKeys σ)

theorem mute_generate (draw : KeyDraw) (projectId : Uuid) (now : Int) :
    Mute (keys.generate draw projectId now) := by
  refine ((Call.mute_protect _).mapError _).bind fun ciphertext => ?_
  split
  · exact fun _ => rfl
  · exact fun _ => rfl

/-- What comes after the making of a key fails in the store only if its private half has been
encrypted. -/
theorem encrypts_of_error {α : Type} {keys : SigningKeys σ} {draw : KeyDraw} {projectId : Uuid}
    {now : Int} {f : SigningKey → Call σ SessionError α} {e : SessionError}
    (h : ((keys.generate draw projectId now >>= f).run w).1 = .error e) (he : e.OfStore) :
    ∃ blob, (keys.protector.encrypt (PrivateKey.ofSeed draw.seed).toPkcs8 w.protector).1 =
      .ok blob := by
  rcases hencrypt : keys.protector.encrypt (PrivateKey.ofSeed draw.seed).toPkcs8 w.protector with
    ⟨e' | blob, s⟩
  · have hasked : ((Call.protect (keys.protector.encrypt
        (PrivateKey.ofSeed draw.seed).toPkcs8)).mapError SessionError.kms).run w =
          (.error (.kms e'), { w with protector := s }) := by
      rw [Call.run_mapError, Call.run_protect, hencrypt]
      rfl
    have hmade : (keys.generate draw projectId now).run w =
        (.error (.kms e'), { w with protector := s }) := Call.run_bind_of_error hasked _
    rw [Call.run_bind_of_error hmade] at h
    obtain rfl := Except.error.inj h
    exact he.elim
  · exact ⟨blob, rfl⟩

/-- Two runs that make a key and fail in the store both got as far as that. -/
theorem encryptAlike_of_errors {α : Type} {p p' : KeyProtector σ} {lifetime : Nat}
    (check : Except SessionError Unit) {keyId projectId : Uuid} {seed seed' : Bytes} {now : Int}
    {f f' : SigningKey → Call σ SessionError α} {e e' : SessionError}
    (h : ((Call.ofExcept check >>= fun _ =>
      (SigningKeys.mk p lifetime).generate ⟨keyId, seed⟩ projectId now >>= f).run w).1 = .error e)
    (he : e.OfStore)
    (h' : ((Call.ofExcept check >>= fun _ =>
      (SigningKeys.mk p' lifetime).generate ⟨keyId, seed'⟩ projectId now >>= f').run v).1 =
        .error e')
    (he' : e'.OfStore) : check = .ok () → EncryptAlike p p' seed seed' w v := by
  rintro rfl
  obtain ⟨blob, hblob⟩ := encrypts_of_error h he
  obtain ⟨blob', hblob'⟩ := encrypts_of_error h' he'
  rw [EncryptAlike, hblob, hblob']
  exact endAlike_ok blob blob'

/-- Of what is asked of the store nothing is required, since only the store can fail there. -/
theorem discreet_storage {α : Type} (c : Call σ StoreError α) :
    Discreet (fun e : SessionError => ¬ e.OfStore) (c.mapError .storage) :=
  (Call.failsAs_mapError fun _ h => h trivial).discreet

theorem discreet_createSigningKey [Wording] (draw : KeyDraw) (projectId : Uuid) (now : Int) :
    Discreet (fun e => ¬ e.OfStore) (keys.create draw projectId now) := by
  refine (mute_generate keys draw projectId now).bind_discreet fun w key mid hgenerate => ?_
  -- After the write nothing fails: the public half that is read back was made by the same call.
  refine (discreet_storage _).bind_succeeds fun _ => ?_
  refine (Call.succeeds_emit _).bind fun _ w' => ?_
  exact ⟨_, Provisioning.ofRecord_of_generate keys hgenerate⟩

theorem discreet_createConsole (hash : String → String) (r : Provisioning.ConsoleRequest)
    (draw : Provisioning.ConsoleDraw) (now : Int) :
    Discreet (fun e => ¬ e.OfStore) (Provisioning.createConsole keys hash r draw now) := by
  refine (Call.mute_ofExcept r.check).bind_discreet fun _ _ _ _ => ?_
  refine (mute_generate keys _ _ now).bind_discreet fun _ key _ _ => ?_
  refine (discreet_storage _).bind_succeeds fun _ => ?_
  exact (Call.succeeds_emit _).bind fun _ => Call.succeeds_pure _

theorem discreet_createProject (r : Provisioning.ProjectRequest) (draw : Provisioning.ProjectDraw)
    (now : Int) :
    Discreet (fun e => ¬ e.OfStore) (Provisioning.createProject keys r draw now) := by
  refine (Call.mute_ofExcept r.check).bind_discreet fun _ _ _ _ => ?_
  refine (mute_generate keys _ _ now).bind_discreet fun _ key _ _ => ?_
  refine (discreet_storage _).bind_succeeds fun _ => ?_
  exact (Call.succeeds_emit _).bind fun _ => Call.succeeds_pure _

theorem discreet_signingKey [Wording] (projectId : Uuid) (now : Int) :
    Discreet (fun e => ¬ e.OfStore) (keys.signingKey projectId now) := by
  refine (discreet_storage _).bind (fun w records mid h => ?_) fun _ records _ _ => ?_
  · -- Keys that have been read have been read without a word.
    obtain ⟨-, rfl⟩ := Store.run_read_eq_ok_iff.1 (Call.run_mapError_eq_ok_iff.1 h)
    rfl
  cases records with
  | nil => exact fun _ _ _ _ => rfl
  | cons record records =>
    refine ((Call.mute_protect _).mapError _).bind_discreet fun _ bytes _ _ => ?_
    refine (Call.mute_ofExcept _).discreet.bind_succeeds fun _ => ?_
    exact (Call.succeeds_emit _).bind fun _ => Call.succeeds_pure _

/-- Two runs that fail have said the same if they have both failed in the store, where they agree, or
both elsewhere, where nothing has been said. -/
theorem log_of_session_errors {α : Type} {c c' : Call σ SessionError α} {condition : Prop}
    {R : α → α → Prop} {e e' : SessionError} (h : w.Twins v)
    (hc : Discreet (fun e => ¬ e.OfStore) c) (hc' : Discreet (fun e => ¬ e.OfStore) c')
    (hagree : Agree condition R (c.run w) (c'.run v))
    (hcondition : e.OfStore → e'.OfStore → condition) (hfail : (c.run w).1 = .error e)
    (hfail' : (c'.run v).1 = .error e') (hstore : e.OfStore ↔ e'.OfStore) :
    (c.run w).2.log = (c'.run v).2.log := by
  by_cases he : e.OfStore
  · exact (hagree.alike (hcondition he (hstore.1 he))).2.log
  · have he' : ¬ e'.OfStore := fun h => he (hstore.2 h)
    rw [hc w e hfail he, hc' v e' hfail' he', h.log]

theorem discreet_issue [Wording] (config : TokenConfig) (seed : Bytes) (subject : SessionSubject)
    (now : Int) :
    Discreet (fun e => ¬ e.OfStore) (SessionToken.issue keys config seed subject now) := by
  refine (Call.mute_ofExcept _).bind_discreet fun _ _ _ _ => ?_
  refine (discreet_signingKey keys subject.projectId now).bind_succeeds fun _ => ?_
  exact (Call.succeeds_emit _).bind fun _ => Call.succeeds_pure _

/-- If no signer is found because the store has failed, the keys could not be read. -/
theorem unread_of_signingKey [Wording] {keys : SigningKeys σ} {projectId : Uuid} {now : Int}
    {e : SessionError} (h : ((keys.signingKey projectId now).run w).1 = .error e)
    (he : e.OfStore) : ∃ f, w.tables.activeSigningKeys projectId now = .error f := by
  cases hread : w.tables.activeSigningKeys projectId now with
  | error f => exact ⟨f, rfl⟩
  | ok records =>
    have hrun : (Store.activeSigningKeys projectId now).run w = (.ok records, w) :=
      Store.run_read_of_ok hread
    rw [SigningKeys.signingKey, Call.run_bind_of_ok (Call.run_mapError_eq_ok_iff.2 hrun)] at h
    -- With the keys at hand the store is not asked again, so it cannot have failed.
    refine absurd he ?_
    cases records with
    | nil =>
      obtain rfl := Except.error.inj h
      exact id
    | cons record records =>
      have hasked : Call.FailsAs (fun e => ¬ e.OfStore) ((Call.protect
          (keys.protector.decrypt record.privateKeyCiphertext)).mapError SessionError.kms) :=
        Call.failsAs_mapError fun _ => id
      refine hasked.bind (fun bytes => ?_) w e h
      have hdecoded : Call.FailsAs (σ := σ) (fun e => ¬ e.OfStore)
          (.ofExcept ((PrivateKey.ofPkcs8 bytes).mapError SessionError.crypto)) :=
        Call.failsAs_ofExcept (fun _ => id) _
      exact hdecoded.bind fun pair =>
        ((Call.succeeds_emit _).bind fun _ => Call.succeeds_pure _).failsAs

/-- If a token is not issued because the store has failed, the keys could not be read. -/
theorem unread_of_issue [Wording] {keys : SigningKeys σ} {config : TokenConfig} {seed : Bytes}
    {subject : SessionSubject} {now : Int} {e : SessionError}
    (h : ((SessionToken.issue keys config seed subject now).run w).1 = .error e) (he : e.OfStore) :
    ∃ f, w.tables.activeSigningKeys subject.projectId now = .error f := by
  rw [SessionToken.issue, SessionToken.clockSeconds] at h
  split at h
  · rcases hsigner : (keys.signingKey subject.projectId now).run w with ⟨e' | signer, mid⟩
    · rw [Call.run_bind_of_ok (Call.run_ofExcept _ _), Call.run_bind_of_error hsigner] at h
      obtain rfl := Except.error.inj h
      exact unread_of_signingKey (congrArg Prod.fst hsigner) he
    · rw [Call.run_bind_of_ok (Call.run_ofExcept _ _), Call.run_bind_of_ok hsigner] at h
      cases h
  · obtain rfl := Except.error.inj h
    exact he.elim

theorem keeps_issue [Wording] (config : TokenConfig) (seed : Bytes) (subject : SessionSubject)
    (now : Int) : Call.Keeps (SessionToken.issue keys config seed subject now) := by
  have hsigner : Call.Keeps (keys.signingKey subject.projectId now) := by
    refine ((Store.reads_read _).mapError _).keeps.bind fun records => ?_
    cases records with
    | nil => exact (Call.reads_fail _).keeps
    | cons record records =>
      refine ((Call.keeps_protect _).mapError _).bind fun bytes => ?_
      refine (Call.reads_ofExcept _).keeps.bind fun _ => ?_
      exact (Call.keeps_emit _).bind fun _ => (Call.reads_pure _).keeps
  refine (Call.reads_ofExcept _).keeps.bind fun _ => hsigner.bind fun _ => ?_
  exact (Call.keeps_emit _).bind fun _ => (Call.reads_pure _).keeps

end Failures

end Secrecy
end Gatehouse
