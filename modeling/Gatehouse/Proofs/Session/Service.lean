import Gatehouse.Auth.ApiKeys
import Gatehouse.Proofs.Crypto.KeyEncoding
import Gatehouse.Proofs.Session.Verification
import Gatehouse.Proofs.Store.Invariant
import Gatehouse.Session.Provisioning

/-!
# The states of the service

A state is reachable if some sequence of the service's operations leads to it from a new store, with
any arguments, random values and clocks, and whether they succeed or not. The operations share one
key protector; what it remembers between them makes no difference.

Signing keys are only ever added. Each comes from a key pair whose public half it holds in the clear
and whose private half it holds as the key protector has encrypted it.
-/

namespace Gatehouse

variable {σ : Type}

/-- A key protector that never decrypts to anything but what it has encrypted, whatever it remembers
in between. -/
def KeyProtector.Inverts (p : KeyProtector σ) : Prop :=
  ∀ plaintext s blob, (p.encrypt plaintext s).1 = .ok blob →
    ∀ s' plaintext', (p.decrypt blob s').1 = .ok plaintext' → plaintext' = plaintext

/-- A row is made from a key pair: its public half, and its private half as encrypted. -/
def SigningKeyRow.MadeFrom (row : SigningKeyRow) (p : KeyProtector σ) (pair : PrivateKey) : Prop :=
  row.publicKey = pair.publicKey.toSubjectPublicKeyInfo ∧
    ∃ s, (p.encrypt pair.toPkcs8 s).1 = .ok row.privateKeyCiphertext

theorem SigningKeyRow.MadeFrom.readable [Wording] {row : SigningKeyRow} {p : KeyProtector σ}
    {pair : PrivateKey} (h : row.MadeFrom p pair) :
    PublicKey.ofSubjectPublicKeyInfo row.publicKey = .ok pair.publicKey := by
  rw [h.1]
  exact PublicKey.ofSubjectPublicKeyInfo_toSubjectPublicKeyInfo (P256.isValid_publicKey pair)

/-- A protector that leaves payloads as they are. -/
def KeyProtector.clear : KeyProtector Unit where
  encrypt plaintext s := (.ok plaintext, s)
  decrypt blob s := (.ok blob, s)

theorem KeyProtector.inverts_clear : KeyProtector.clear.Inverts := by
  intro plaintext s blob hencrypt s' plaintext' hdecrypt
  exact (Except.ok.inj hdecrypt).symm.trans (Except.ok.inj hencrypt).symm

namespace Service

/-! ## Operations -/

/-- An operation of the service that may change the store, with its arguments, its random values and
its clock. The lifetime of new keys is a setting of the service that makes them. -/
inductive Operation where
  | createSigningKey (lifetime : Nat) (draw : KeyDraw) (projectId : Uuid) (now : Int)
  | createConsole (lifetime : Nat) (hash : String → String) (r : Provisioning.ConsoleRequest)
      (draw : Provisioning.ConsoleDraw) (now : Int)
  | createProject (lifetime : Nat) (r : Provisioning.ProjectRequest)
      (draw : Provisioning.ProjectDraw) (now : Int)
  | createApiKey (draw : ApiKeyDraw) (projectId : Uuid) (displayName : String)
      (authenticationOnly : Bool) (now : Int)
  | revokeApiKey (projectId id : Uuid)
  | updateProject (u : ProjectUpdate)
  | countEmail (projectId : Uuid) (day : Int)

/-- The world after an operation. -/
def Operation.after [Wording] (p : KeyProtector σ) : Operation → World σ → World σ
  | createSigningKey lifetime draw projectId now, w =>
    ((SigningKeys.create ⟨p, lifetime⟩ draw projectId now).run w).2
  | createConsole lifetime hash r draw now, w =>
    ((Provisioning.createConsole ⟨p, lifetime⟩ hash r draw now).run w).2
  | createProject lifetime r draw now, w =>
    ((Provisioning.createProject ⟨p, lifetime⟩ r draw now).run w).2
  | createApiKey draw projectId displayName authenticationOnly now, w =>
    ((ApiKeys.create draw projectId displayName authenticationOnly now).run w).2
  | revokeApiKey projectId id, w => ((ApiKeys.revoke projectId id).run w).2
  | updateProject u, w => ((Store.updateProject u).run w).2
  | countEmail projectId day, w => ((Store.countEmail projectId day).run w).2

/-- The tables that operations lead to from some tables. -/
inductive Leads [Wording] (p : KeyProtector σ) (start : Database) : Database → Prop where
  | refl : Leads p start start
  | step {w : World σ} (op : Operation) (h : Leads p start w.tables) :
      Leads p start (op.after p w).tables

/-- The tables that operations lead to from a new store. -/
def Reachable [Wording] (p : KeyProtector σ) (db : Database) : Prop :=
  Leads p .empty db

/-! ## Operations as operations of the store -/

section Steps

variable {p : KeyProtector σ} {w w' : World σ}

/-- A new key is made if its private half can be encrypted and its lifetime fits. -/
theorem encrypts_of_generate {keys : SigningKeys σ} {draw : KeyDraw} {projectId : Uuid} {now : Int}
    {key : SigningKey} (h : (keys.generate draw projectId now).run w = (.ok key, w')) :
    keys.lifetime < Limit.bits63 ∧
      (keys.protector.encrypt (PrivateKey.ofSeed draw.seed).toPkcs8 w.protector).1 =
        .ok key.privateKeyCiphertext ∧
      key.publicKey = (PrivateKey.ofSeed draw.seed).publicKey.toSubjectPublicKeyInfo := by
  obtain ⟨ciphertext, mid, hencrypt, hrest⟩ := Call.run_bind_eq_ok_iff.1 h
  have hciphertext : (keys.protector.encrypt (PrivateKey.ofSeed draw.seed).toPkcs8 w.protector).1 =
      .ok ciphertext := congrArg Prod.fst (Call.run_mapError_eq_ok_iff.1 hencrypt)
  by_cases hlifetime : keys.lifetime < Limit.bits63
  · rw [if_pos hlifetime] at hrest
    obtain rfl := Except.ok.inj (congrArg Prod.fst hrest)
    exact ⟨hlifetime, hciphertext, rfl⟩
  · rw [if_neg hlifetime] at hrest
    cases congrArg Prod.fst hrest

/-- A new key is made from a key pair, and nothing is stored. -/
theorem generate_eq_ok {keys : SigningKeys σ} {draw : KeyDraw} {projectId : Uuid} {now : Int}
    {key : SigningKey} (h : (keys.generate draw projectId now).run w = (.ok key, w')) :
    key.row.MadeFrom keys.protector (PrivateKey.ofSeed draw.seed) := by
  obtain ⟨-, hencrypt, hpublic⟩ := encrypts_of_generate h
  exact ⟨hpublic, w.protector, hencrypt⟩

/-- A key that can be encrypted is made. -/
theorem run_generate (keys : SigningKeys σ) (draw : KeyDraw) (projectId : Uuid) (now : Int)
    {blob : Bytes} (hlifetime : keys.lifetime < Limit.bits63)
    (hencrypt : (keys.protector.encrypt (PrivateKey.ofSeed draw.seed).toPkcs8 w.protector).1 =
      .ok blob) :
    ∃ mid, mid.tables = w.tables ∧ (keys.generate draw projectId now).run w =
      (.ok { id := draw.id, projectId, privateKeyCiphertext := blob
             publicKey := (PrivateKey.ofSeed draw.seed).publicKey.toSubjectPublicKeyInfo
             expiresAt := now + keys.lifetime, createdAt := now }, mid) := by
  refine ⟨{ w with
    protector := (keys.protector.encrypt (PrivateKey.ofSeed draw.seed).toPkcs8 w.protector).2 },
    rfl, ?_⟩
  have hprotect : (Call.protect (keys.protector.encrypt
      (PrivateKey.ofSeed draw.seed).toPkcs8)).run w = (.ok blob, _) := Prod.ext hencrypt rfl
  rw [SigningKeys.generate, Call.run_bind_of_ok (Call.run_mapError_eq_ok_iff.2 hprotect),
    if_pos hlifetime, Call.run_pure]
  rfl

theorem keeps_generate (keys : SigningKeys σ) (draw : KeyDraw) (projectId : Uuid) (now : Int) :
    Call.Keeps (keys.generate draw projectId now) := by
  refine ((Call.keeps_protect _).mapError _).bind fun ciphertext => ?_
  split
  · exact (Call.reads_pure _).keeps
  · exact (Call.reads_fail _).keeps

/-- What an operation does to the tables: nothing, or what an operation of the store does whose new
keys are made from key pairs. -/
def Acts (p : KeyProtector σ) (db db' : Database) : Prop :=
  db' = db ∨ ∃ c : Store.Command, db' = c.after db ∧
    ∀ key ∈ c.newKeys, ∃ pair, key.row.MadeFrom p pair

theorem Acts.ofExcept_bind {ε α β : Type} {r : Except ε α} {f : α → Call σ ε β}
    (h : ∀ a, Acts p w.tables ((f a).run w).2.tables) :
    Acts p w.tables ((Call.ofExcept r >>= f).run w).2.tables := by
  cases r with
  | error e => exact .inl rfl
  | ok a => exact h a

/-- A call that makes a key and then does to the tables what an operation that writes this key
does. -/
theorem Acts.generate_bind {α : Type} {lifetime : Nat} {draw : KeyDraw} {projectId : Uuid}
    {now : Int} (write : SigningKey → Store.Command) {f : SigningKey → Call σ SessionError α}
    (hkeys : ∀ key, (write key).newKeys = [key])
    (hwrite : ∀ key w, ((f key).run w).2.tables = (write key).after w.tables) :
    Acts p w.tables
      (((SigningKeys.mk p lifetime).generate draw projectId now >>= f).run w).2.tables := by
  have hkeeps := keeps_generate ⟨p, lifetime⟩ draw projectId now w
  rcases hrun : (SigningKeys.mk p lifetime).generate draw projectId now |>.run w with ⟨e | key, w'⟩
  -- Without a key nothing is written.
  · rw [hrun] at hkeeps
    rw [Call.run_bind_of_error hrun]
    exact .inl hkeeps
  · rw [hrun] at hkeeps
    have hsame : w'.tables = w.tables := hkeeps
    rw [Call.run_bind_of_ok hrun, hwrite, hsame]
    refine .inr ⟨write key, rfl, ?_⟩
    rw [hkeys, List.forall_mem_singleton]
    exact ⟨_, generate_eq_ok hrun⟩

/-- A call of the store whose answer is not used does what the operation does. -/
theorem tables_of_call_eq {α : Type} {c : Store.Command} {called : Call σ StoreError α}
    (h : c.call = (do let _ ← called)) (w : World σ) :
    (called.run w).2.tables = c.after w.tables := by
  rw [← c.tables_run_call w, h]
  exact (Call.tables_run_bind (fun _ => (Call.reads_pure ()).keeps) w).symm

/-- A call that begins with an operation of the store and leaves the tables alone afterwards. -/
theorem tables_mapError_bind {ε α β : Type} {c : Store.Command} {called : Call σ StoreError α}
    {f : StoreError → ε} {g : α → Call σ ε β}
    (hcalled : ∀ w : World σ, (called.run w).2.tables = c.after w.tables)
    (hg : ∀ a, Call.Keeps (g a)) (w : World σ) :
    ((called.mapError f >>= g).run w).2.tables = c.after w.tables := by
  rw [Call.tables_run_bind hg, Call.run_mapError]
  exact hcalled w

/-- Every operation of the service does to the tables what one operation of the store does, if it
does anything. -/
theorem acts_after [Wording] (op : Operation) (w : World σ) :
    Acts p w.tables (op.after p w).tables := by
  have hplain : ∀ (c : Store.Command), c.newKeys = [] → (op.after p w).tables = c.after w.tables →
      Acts p w.tables (op.after p w).tables := by
    intro c hkeys hafter
    refine .inr ⟨c, hafter, ?_⟩
    rw [hkeys]
    exact fun key hkey => absurd hkey List.not_mem_nil
  -- The first three make a key before they write anything, the others write at once.
  cases op with
  | createSigningKey lifetime draw projectId now =>
    refine Acts.generate_bind .createSigningKey (fun _ => rfl) fun key w => ?_
    refine tables_mapError_bind (c := .createSigningKey key) (fun w => ?_) (fun _ => ?_) w
    · exact Store.Command.tables_run_call (.createSigningKey key) w
    · exact (Call.keeps_emit _).bind fun _ => (Call.reads_ofExcept _).keeps
  | createConsole lifetime hash r draw now =>
    let written := fun key => Provisioning.consoleProject r draw
      (hash (Provisioning.bootstrapPassword draw.password)) key now
    refine Acts.ofExcept_bind fun _ =>
      Acts.generate_bind (fun key => .createConsoleProject (written key)) (fun _ => rfl)
        fun key w => ?_
    refine tables_mapError_bind (c := .createConsoleProject (written key)) (fun w => ?_)
      (fun _ => ?_) w
    · exact Store.Command.tables_run_call (.createConsoleProject (written key)) w
    · exact (Call.keeps_emit _).bind fun _ => (Call.reads_pure _).keeps
  | createProject lifetime r draw now =>
    let written := fun key => Provisioning.tenantProject r draw key now
    refine Acts.ofExcept_bind fun _ =>
      Acts.generate_bind (fun key => .createProject (written key)) (fun _ => rfl) fun key w => ?_
    refine tables_mapError_bind (c := .createProject (written key)) (fun w => ?_) (fun _ => ?_) w
    · exact Store.Command.tables_run_call (.createProject (written key)) w
    · exact (Call.keeps_emit _).bind fun _ => (Call.reads_pure _).keeps
  | createApiKey draw projectId displayName authenticationOnly now =>
    refine hplain (.createApiKey ⟨draw.id, projectId, displayName, ApiKeys.digest draw.secret,
      authenticationOnly, now⟩) rfl ?_
    refine tables_mapError_bind (tables_of_call_eq rfl) (fun _ => ?_) w
    exact (Call.keeps_emit _).bind fun _ => (Call.reads_pure _).keeps
  | revokeApiKey projectId id =>
    refine hplain (.revokeApiKey projectId id) rfl ?_
    rw [← Store.Command.tables_run_call]
    exact Call.tables_run_bind (fun _ => Call.keeps_emit _) w
  | updateProject u => exact hplain (.updateProject u) rfl (tables_of_call_eq rfl w)
  | countEmail projectId day =>
    exact hplain (.countEmail projectId day) rfl (tables_of_call_eq rfl w)

end Steps

/-! ## The first operation -/

section Bootstrap

variable {p : KeyProtector σ} {w : World σ} {lifetime : Nat} {hash : String → String}
  {r : Provisioning.ConsoleRequest} {draw : Provisioning.ConsoleDraw} {now : Int} {blob : Bytes}

/-- The key that a bootstrap makes. -/
def bootstrapKey (lifetime : Nat) (draw : Provisioning.ConsoleDraw) (now : Int) (blob : Bytes) :
    SigningKey where
  id := draw.key.id
  projectId := draw.projectId
  publicKey := (PrivateKey.ofSeed draw.key.seed).publicKey.toSubjectPublicKeyInfo
  privateKeyCiphertext := blob
  expiresAt := now + lifetime
  createdAt := now

/-- The bootstrap of a new store succeeds if it is asked for something possible and its key can be
encrypted, and leaves what it writes. -/
theorem run_createConsole (hw : w.tables = .empty) (hcheck : r.check = .ok ())
    (hlifetime : lifetime < Limit.bits63)
    (hencrypt : (p.encrypt (PrivateKey.ofSeed draw.key.seed).toPkcs8 w.protector).1 = .ok blob) :
    ∃ console w', (Provisioning.createConsole ⟨p, lifetime⟩ hash r draw now).run w =
        (.ok console, w') ∧
      w'.tables = (Provisioning.consoleProject r draw
        (hash (Provisioning.bootstrapPassword draw.password))
        (bootstrapKey lifetime draw now blob) now).tables := by
  let key := bootstrapKey lifetime draw now blob
  let written := Provisioning.consoleProject r draw
    (hash (Provisioning.bootstrapPassword draw.password)) key now
  have hchecked : (Call.ofExcept r.check : Call σ _ _).run w = (.ok (), w) := by
    rw [hcheck, Call.run_ofExcept]
  obtain ⟨mid, hmid, hkey⟩ : ∃ mid, mid.tables = w.tables ∧
      ((SigningKeys.mk p lifetime).generate draw.key draw.projectId now).run w = (.ok key, mid) :=
    run_generate ⟨p, lifetime⟩ draw.key draw.projectId now hlifetime hencrypt
  have hown : written.signingKey.projectId = written.projectId := rfl
  have hstored : (Store.runAll written.statements : Call σ _ _).run mid =
      (.ok (), { mid with tables := written.tables }) := by
    apply Store.run_runAll_of_ok
    rw [hmid, hw, written.statements_empty, if_pos hown]
  obtain ⟨w', hcreated, htables⟩ : ∃ w', (Store.createConsoleProject written).run mid =
      (.ok (), w') ∧ w'.tables = written.tables := by
    rw [Store.createConsoleProject, Call.run_bind_of_ok hstored]
    exact ⟨_, rfl, rfl⟩
  rw [Provisioning.createConsole, Call.run_bind_of_ok hchecked]
  dsimp only
  rw [Call.run_bind_of_ok hkey, Call.run_bind_of_ok (Call.run_mapError_eq_ok_iff.2 hcreated)]
  exact ⟨_, _, rfl, htables⟩

theorem tables_createConsole [Wording] (hw : w.tables = .empty) (hcheck : r.check = .ok ())
    (hlifetime : lifetime < Limit.bits63)
    (hencrypt : (p.encrypt (PrivateKey.ofSeed draw.key.seed).toPkcs8 w.protector).1 = .ok blob) :
    ((Operation.createConsole lifetime hash r draw now).after p w).tables =
      (Provisioning.consoleProject r draw (hash (Provisioning.bootstrapPassword draw.password))
        (bootstrapKey lifetime draw now blob) now).tables := by
  obtain ⟨console, w', hrun, htables⟩ := run_createConsole hw hcheck hlifetime hencrypt
  rw [Operation.after, hrun]
  exact htables

/-- Random values for a console: identifiers 1 to 3, no password, and a key with the identifier 5. -/
def sampleDraw : Provisioning.ConsoleDraw :=
  ⟨.ofNat 1, .ofNat 2, .ofNat 3, [], ⟨.ofNat 5, [1]⟩⟩

end Bootstrap

/-! ## Runs -/

section Runs

variable {p : KeyProtector σ} {start db : Database}

theorem Acts.reachable {db' : Database} (h : Acts p db db') (hdb : Store.Reachable db) :
    Store.Reachable db' := by
  rcases h with rfl | ⟨c, rfl, -⟩
  · exact hdb
  · exact .step c hdb

/-- What one operation does to the signing keys: it adds some that are made from key pairs, or none
at all. -/
theorem Acts.signingKeys {db' : Database} (h : Acts p db db') (hdb : db.Conforms) :
    ∃ rows, db'.signingKeys = db.signingKeys ++ rows ∧
      ∀ row ∈ rows, ∃ pair, row.MadeFrom p pair := by
  have hnone : db'.signingKeys = db.signingKeys → ∃ rows, db'.signingKeys = db.signingKeys ++ rows ∧
      ∀ row ∈ rows, ∃ pair, row.MadeFrom p pair := by
    intro hsame
    exact ⟨[], by rw [hsame, List.append_nil], fun row hrow => absurd hrow List.not_mem_nil⟩
  rcases h with rfl | ⟨c, rfl, hmade⟩
  · exact hnone rfl
  · rcases c.signingKeys_after hdb with hsame | hadded
    · exact hnone hsame
    · exact ⟨_, hadded, List.forall_mem_map.2 hmade⟩

variable [Wording]

/-- Operations of the service lead to reachable states of the store. -/
theorem Leads.reachable (h : Leads p start db) (hstart : Store.Reachable start) :
    Store.Reachable db := by
  induction h with
  | refl => exact hstart
  | step op _ ih => exact (acts_after op _).reachable ih

/-- Signing keys stay, and whatever is added to them is made from key pairs. -/
theorem Leads.signingKeys (h : Leads p start db) (hstart : Store.Reachable start) :
    ∃ rows, db.signingKeys = start.signingKeys ++ rows ∧
      ∀ row ∈ rows, ∃ pair, row.MadeFrom p pair := by
  induction h with
  | refl => exact ⟨[], (List.append_nil _).symm, fun row hrow => absurd hrow List.not_mem_nil⟩
  | step op hleads ih =>
    obtain ⟨rows, hrows, hmade⟩ := ih
    obtain ⟨new, hnew, hmade'⟩ := (acts_after op _).signingKeys (hleads.reachable hstart).conforms
    refine ⟨rows ++ new, by rw [hnew, hrows, List.append_assoc], ?_⟩
    intro row hrow
    rcases List.mem_append.1 hrow with hrow | hrow
    · exact hmade row hrow
    · exact hmade' row hrow

theorem Leads.trans {db' : Database} (h : Leads p start db) (h' : Leads p db db') :
    Leads p start db' := by
  induction h' with
  | refl => exact h
  | step op _ ih => exact .step op ih

theorem Reachable.store (h : Reachable p db) : Store.Reachable db :=
  Leads.reachable h .fresh

/-- **Signing keys of the service.** In every reachable state each signing key is made from a key
pair. -/
theorem Reachable.madeFrom (h : Reachable p db) :
    ∀ row ∈ db.signingKeys, ∃ pair, row.MadeFrom p pair := by
  obtain ⟨rows, hrows, hmade⟩ := Leads.signingKeys h .fresh
  have hall : db.signingKeys = rows := hrows
  rw [hall]
  exact hmade

theorem Reachable.keysReadable (h : Reachable p db) (projectId : Uuid) (now : Int) :
    SessionToken.KeysReadable db projectId now := by
  intro row hrow
  obtain ⟨pair, hpair⟩ := h.madeFrom row (Database.mem_activeKeyRows.1 hrow).1
  exact ⟨_, hpair.readable⟩

/-! ## Keys that sign -/

/-- The key that signs is in the first of the active rows, as decrypted. -/
theorem signingKey_eq_ok {keys : SigningKeys σ} {projectId : Uuid} {now : Int} {w w' : World σ}
    {signer : Uuid} {pair : PrivateKey} (hdb : w.tables.Conforms)
    (h : (keys.signingKey projectId now).run w = (.ok (signer, pair), w')) :
    ∃ row rest, w.tables.activeKeyRows projectId now = row :: rest ∧ row.id = signer.text ∧
      ∃ s bytes, (keys.protector.decrypt row.privateKeyCiphertext s).1 = .ok bytes ∧
        PrivateKey.ofPkcs8 bytes = .ok pair := by
  obtain ⟨records, mid, hread, hrest⟩ := Call.run_bind_eq_ok_iff.1 h
  obtain ⟨active, hactive, hrows⟩ := hdb.activeSigningKeys projectId now
  have hrecords : records = active := by
    have hquery := (Store.run_read_eq_ok_iff.1 (Call.run_mapError_eq_ok_iff.1 hread)).1
    exact Except.ok.inj (hquery.symm.trans hactive)
  subst hrecords
  cases records with
  | nil => cases congrArg Prod.fst hrest
  | cons record records =>
    -- From here on the call is of the first record alone: its key is decrypted, then decoded.
    obtain ⟨bytes, mid', hdecrypt, hrest⟩ := Call.run_bind_eq_ok_iff.1 hrest
    obtain ⟨pair', mid'', hdecode, hrest⟩ := Call.run_bind_eq_ok_iff.1 hrest
    have hbytes : (keys.protector.decrypt record.privateKeyCiphertext mid.protector).1 =
        .ok bytes := congrArg Prod.fst (Call.run_mapError_eq_ok_iff.1 hdecrypt)
    have hpair : (PrivateKey.ofPkcs8 bytes).mapError SessionError.crypto = .ok pair' :=
      congrArg Prod.fst hdecode
    obtain ⟨rfl, rfl⟩ := Prod.mk.inj (Except.ok.inj (congrArg Prod.fst hrest))
    refine ⟨record.row, records.map SigningKey.row, hrows.symm, rfl, mid.protector, bytes,
      hbytes, ?_⟩
    cases hdecoded : PrivateKey.ofPkcs8 bytes with
    | error e =>
      rw [hdecoded] at hpair
      cases hpair
    | ok found =>
      rw [hdecoded] at hpair
      exact congrArg Except.ok (Except.ok.inj hpair)

/-- The key in the first of the active rows is handed out if it is decrypted to a key pair. -/
theorem signingKey_of_active {keys : SigningKeys σ} {projectId : Uuid} {now : Int} {w : World σ}
    {row : SigningKeyRow} {rest : List SigningKeyRow} {signer : Uuid} {pair : PrivateKey}
    {bytes : Bytes} (hdb : w.tables.Conforms)
    (hrows : w.tables.activeKeyRows projectId now = row :: rest) (hid : row.id = signer.text)
    (hdecrypt : (keys.protector.decrypt row.privateKeyCiphertext w.protector).1 = .ok bytes)
    (hdecode : PrivateKey.ofPkcs8 bytes = .ok pair) :
    ∃ mid, (keys.signingKey projectId now).run w = (.ok (signer, pair), mid) := by
  obtain ⟨active, hactive, hmap⟩ := hdb.activeSigningKeys projectId now
  rw [hrows] at hmap
  cases active with
  | nil => cases hmap
  | cons record records =>
    obtain ⟨rfl, -⟩ := List.cons.inj hmap
    obtain rfl : record.id = signer := Uuid.text_injective hid
    have hread : (Store.activeSigningKeys projectId now).run w = (.ok (record :: records), w) :=
      Store.run_read_of_ok hactive
    have hprotect : (Call.protect (keys.protector.decrypt record.privateKeyCiphertext)).run w =
        (.ok bytes, _) := Prod.ext hdecrypt rfl
    rw [SigningKeys.signingKey, Call.run_bind_of_ok (Call.run_mapError_eq_ok_iff.2 hread)]
    dsimp only
    rw [Call.run_bind_of_ok (Call.run_mapError_eq_ok_iff.2 hprotect), hdecode]
    exact ⟨_, rfl⟩

/-- What the private half of an active key is decrypted to can be decoded. -/
theorem Reachable.ofPkcs8_of_active {projectId : Uuid} {now : Int} {w : World σ} {s : σ}
    {record : SigningKey} {records : List SigningKey} {bytes : Bytes} (hp : p.Inverts)
    (hw : Reachable p w.tables)
    (hactive : w.tables.activeSigningKeys projectId now = .ok (record :: records))
    (hdecrypt : (p.decrypt record.privateKeyCiphertext s).1 = .ok bytes) :
    ∃ pair, PrivateKey.ofPkcs8 bytes = .ok pair := by
  obtain ⟨active, hread, hrows⟩ := hw.store.conforms.activeSigningKeys projectId now
  obtain rfl := Except.ok.inj (hactive.symm.trans hread)
  have hrow : record.row ∈ w.tables.activeKeyRows projectId now := by
    rw [← hrows]
    exact List.mem_cons_self
  obtain ⟨pair, -, s', hencrypt⟩ := hw.madeFrom _ (Database.mem_activeKeyRows.1 hrow).1
  rw [hp _ _ _ hencrypt _ _ hdecrypt]
  exact ⟨pair, pair.ofPkcs8_toPkcs8⟩

/-- The key that signs is the pair that its row is made from. -/
theorem Reachable.signingKey_eq_ok {lifetime : Nat} {projectId : Uuid} {now : Int} {w w' : World σ}
    {signer : Uuid} {pair : PrivateKey} (hp : p.Inverts) (hw : Reachable p w.tables)
    (h : ((SigningKeys.mk p lifetime).signingKey projectId now).run w = (.ok (signer, pair), w')) :
    ∃ row rest, w.tables.activeKeyRows projectId now = row :: rest ∧ row.id = signer.text ∧
      row.MadeFrom p pair := by
  obtain ⟨row, rest, hrows, hid, s, bytes, hdecrypt, hdecode⟩ :=
    Service.signingKey_eq_ok hw.store.conforms h
  have hrow : row ∈ w.tables.activeKeyRows projectId now := by
    rw [hrows]
    exact List.mem_cons_self
  obtain ⟨made, hmade⟩ := hw.madeFrom row (Database.mem_activeKeyRows.1 hrow).1
  obtain ⟨hpublic, s', hencrypt⟩ := hmade
  -- What is decrypted is the private half that was encrypted, and it has one reading.
  obtain rfl := hp _ _ _ hencrypt _ _ hdecrypt
  rw [made.ofPkcs8_toPkcs8] at hdecode
  obtain rfl := Except.ok.inj hdecode
  exact ⟨row, rest, hrows, hid, hpublic, s', hencrypt⟩

end Runs

end Service
end Gatehouse
