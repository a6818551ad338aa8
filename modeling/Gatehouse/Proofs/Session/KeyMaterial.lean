import Gatehouse.Proofs.Session.Tokens

/-!
# Stored keys stay usable

A key protector that gives back what it was given makes every stored key as good as a new one: its
private half is decrypted and read, and its public half is the one that is held in the clear. So the
public halves of a project can always be read, and a project can sign exactly while it has a key that
has not expired.
-/

namespace Gatehouse

variable {σ : Type} {p : KeyProtector σ}

/-- A key protector that decrypts whatever it has encrypted to what that was, whatever it remembers
in between. -/
def KeyProtector.Restores (p : KeyProtector σ) : Prop :=
  ∀ plaintext s blob, (p.encrypt plaintext s).1 = .ok blob →
    ∀ s', (p.decrypt blob s').1 = .ok plaintext

theorem KeyProtector.restores_clear : KeyProtector.clear.Restores := by
  intro plaintext s blob hencrypt s'
  obtain rfl := Except.ok.inj hencrypt
  rfl

/-- A row keeps a key pair. -/
structure SigningKeyRow.Keeps [Wording] (row : SigningKeyRow) (p : KeyProtector σ)
    (pair : PrivateKey) : Prop where
  /-- The private half is decrypted and read. -/
  decrypts : ∀ s, ∃ bytes, (p.decrypt row.privateKeyCiphertext s).1 = .ok bytes ∧
    PrivateKey.ofPkcs8 bytes = .ok pair
  /-- The public half is held in the clear. -/
  publicKey : row.publicKey = pair.publicKey.toSubjectPublicKeyInfo
  readable : PublicKey.ofSubjectPublicKeyInfo row.publicKey = .ok pair.publicKey

theorem SigningKeyRow.MadeFrom.keeps [Wording] {row : SigningKeyRow} {pair : PrivateKey}
    (h : row.MadeFrom p pair) (hp : p.Restores) : row.Keeps p pair := by
  obtain ⟨s, hencrypt⟩ := h.2
  constructor
  · exact fun s' => ⟨pair.toPkcs8, hp _ _ _ hencrypt s', pair.ofPkcs8_toPkcs8⟩
  · exact h.1
  · exact h.readable

namespace Service

section Usable

variable [Wording] {w : World σ} {projectId : Uuid} {now : Int}

/-- A project without active keys has none to sign with. -/
theorem signingKey_of_no_rows (keys : SigningKeys σ) (hdb : w.tables.Conforms)
    (hrows : w.tables.activeKeyRows projectId now = []) :
    ((keys.signingKey projectId now).run w).1 =
      .error (.noActiveSigningKey (IdFormat.project.format projectId)) := by
  obtain ⟨active, hactive, hmap⟩ := hdb.activeSigningKeys projectId now
  rw [hrows, List.map_eq_nil_iff] at hmap
  subst hmap
  have hread : (Store.activeSigningKeys projectId now).run w = (.ok [], w) :=
    Store.run_read_of_ok hactive
  rw [SigningKeys.signingKey, Call.run_bind_of_ok (Call.run_mapError_eq_ok_iff.2 hread)]
  rfl

/-- The key that signs is kept by the first of the active rows, and only without such rows is there
none. -/
theorem Reachable.signingKey_cases (hp : p.Restores) (hw : Reachable p w.tables) (lifetime : Nat)
    (projectId : Uuid) (now : Int) :
    let signing := (((SigningKeys.mk p lifetime).signingKey projectId now).run w).1
    (w.tables.activeKeyRows projectId now = [] ∧
      signing = .error (.noActiveSigningKey (IdFormat.project.format projectId))) ∨
    ∃ row ∈ w.tables.activeKeyRows projectId now, ∃ signer pair, row.id = signer.text ∧
      row.Keeps p pair ∧ signing = .ok (signer, pair) := by
  intro signing
  have hdb := hw.store.conforms
  cases hrows : w.tables.activeKeyRows projectId now with
  | nil => exact .inl ⟨rfl, signingKey_of_no_rows _ hdb hrows⟩
  | cons row rest =>
    have hmem : row ∈ w.tables.signingKeys :=
      (Database.mem_activeKeyRows.1 (hrows ▸ List.mem_cons_self)).1
    obtain ⟨pair, hmade⟩ := hw.madeFrom row hmem
    have hkeeps := hmade.keeps hp
    obtain ⟨signer, hid⟩ := hdb.keyTexts row hmem
    obtain ⟨bytes, hdecrypt, hdecode⟩ := hkeeps.decrypts w.protector
    let keys := SigningKeys.mk p lifetime
    obtain ⟨mid, hrun⟩ : ∃ mid, (keys.signingKey projectId now).run w = (.ok (signer, pair), mid) :=
      signingKey_of_active hdb hrows hid.symm hdecrypt hdecode
    exact .inr ⟨row, List.mem_cons_self, signer, pair, hid.symm, hkeeps, congrArg Prod.fst hrun⟩

/-- There is a key to sign with exactly if a row of the project has not expired. -/
theorem Reachable.signs_iff (hp : p.Restores) (hw : Reachable p w.tables) (lifetime : Nat)
    (projectId : Uuid) (now : Int) :
    (∃ found, (((SigningKeys.mk p lifetime).signingKey projectId now).run w).1 = .ok found) ↔
      ∃ row ∈ w.tables.signingKeys, row.projectId = projectId.text ∧ now < row.expiresAt := by
  rcases hw.signingKey_cases hp lifetime projectId now with
    ⟨hnone, hsigning⟩ | ⟨row, hrow, signer, pair, -, -, hsigning⟩
  · refine iff_of_false ?_ ?_
    · rintro ⟨found, hfound⟩
      cases hsigning.symm.trans hfound
    · rintro ⟨row, hrow⟩
      have hactive := Database.mem_activeKeyRows.2 hrow
      rw [hnone] at hactive
      exact List.not_mem_nil hactive
  · exact iff_of_true ⟨_, hsigning⟩ ⟨row, Database.mem_activeKeyRows.1 hrow⟩

/-- The pair that signs is kept by an active row, under whose id it signs. -/
theorem Reachable.keeps_of_signingKey (hp : p.Restores) (hw : Reachable p w.tables) {lifetime : Nat}
    {signer : Uuid} {pair : PrivateKey}
    (h : (((SigningKeys.mk p lifetime).signingKey projectId now).run w).1 = .ok (signer, pair)) :
    ∃ row ∈ w.tables.activeKeyRows projectId now, row.id = signer.text ∧ row.Keeps p pair := by
  rcases hw.signingKey_cases hp lifetime projectId now with
    ⟨-, hsigning⟩ | ⟨row, hrow, signer', pair', hid, hkeeps, hsigning⟩
  · cases hsigning.symm.trans h
  · obtain ⟨rfl, rfl⟩ := Prod.mk.inj (Except.ok.inj (hsigning.symm.trans h))
    exact ⟨row, hrow, hid, hkeeps⟩

/-- Nothing but the lack of a key keeps a project from signing. -/
theorem Reachable.error_of_signingKey (hp : p.Restores) (hw : Reachable p w.tables)
    {lifetime : Nat} {e : SessionError}
    (h : (((SigningKeys.mk p lifetime).signingKey projectId now).run w).1 = .error e) :
    e = .noActiveSigningKey (IdFormat.project.format projectId) := by
  rcases hw.signingKey_cases hp lifetime projectId now with
    ⟨-, hsigning⟩ | ⟨_, _, _, _, -, -, hsigning⟩
  · exact (Except.error.inj (hsigning.symm.trans h)).symm
  · cases hsigning.symm.trans h

/-- **Stored key material.** In every reachable state each signing key is kept by its row. So the
public halves of a project's active keys can be read at any time, and there is a key to sign with
exactly if the project has one that has not expired: a pair that its row keeps and whose public half
is published under the row's id. Otherwise what is told is that there is no such key. -/
theorem keys_usable (hp : p.Restores) (hw : Reachable p w.tables) :
    (∀ row ∈ w.tables.signingKeys, ∃ pair, row.Keeps p pair) ∧
    ∀ (lifetime : Nat) (projectId : Uuid) (now : Int),
      let signing := (((SigningKeys.mk p lifetime).signingKey projectId now).run w).1
      ∃ published, ((SigningKeys.activePublicKeys projectId now).run w).1 = .ok published ∧
        ((∃ found, signing = .ok found) ↔
          ∃ row ∈ w.tables.signingKeys, row.projectId = projectId.text ∧ now < row.expiresAt) ∧
        (∀ signer pair, signing = .ok (signer, pair) →
          (∃ row ∈ w.tables.signingKeys, row.id = signer.text ∧ row.Keeps p pair) ∧
          ∃ key, published.find? (·.id == signer) = some key ∧ key.publicKey = pair.publicKey) ∧
        ∀ e, signing = .error e →
          e = .noActiveSigningKey (IdFormat.project.format projectId) := by
  constructor
  · intro row hrow
    obtain ⟨pair, hmade⟩ := hw.madeFrom row hrow
    exact ⟨pair, hmade.keeps hp⟩
  intro lifetime projectId now signing
  obtain ⟨published, hread, hfind⟩ :=
    SessionToken.exists_activeKeys hw.store.conforms (hw.keysReadable projectId now)
  refine ⟨published, (SessionToken.reads_activePublicKeys projectId now w).1.trans hread,
    hw.signs_iff hp lifetime projectId now, fun signer pair hfound => ?_,
    fun e he => hw.error_of_signingKey hp he⟩
  obtain ⟨row, hrow, hid, hkeeps⟩ := hw.keeps_of_signingKey hp hfound
  obtain ⟨hmem, hproject, hexpires⟩ := Database.mem_activeKeyRows.1 hrow
  -- The row that keeps the pair is the one that is published under its id.
  obtain ⟨key, hkey, hpublic⟩ := (hfind (IdFormat.signingKey.format signer) signer
    pair.publicKey).2 ⟨row, hmem, hid, hproject, hexpires, hkeeps.readable⟩
  exact ⟨⟨row, hmem, hid, hkeeps⟩, key, SessionToken.keyFor_eq_ok_iff.1 hkey, hpublic⟩

end Usable

/-- The console's key signs until its last second, and then there is none. -/
theorem keys_usable_sampleWorld :
    let keys := SigningKeys.mk KeyProtector.clear 1000
    (∃ found, ((keys.signingKey (.ofNat 1) 999).run SessionToken.sampleWorld).1 = .ok found) ∧
      ((keys.signingKey (.ofNat 1) 1000).run SessionToken.sampleWorld).1 =
        .error (.noActiveSigningKey (IdFormat.project.format (.ofNat 1))) := by
  intro keys
  obtain ⟨-, hkeys⟩ := keys_usable KeyProtector.restores_clear SessionToken.reachable_sampleWorld
  obtain ⟨-, -, hbefore, -, -⟩ := hkeys 1000 (.ofNat 1) 999
  obtain ⟨-, -, hafter, -, htold⟩ := hkeys 1000 (.ofNat 1) 1000
  constructor
  · rw [hbefore, SessionToken.signingKeys_sampleWorld]
    exact ⟨_, List.mem_singleton_self _, rfl, by decide⟩
  · cases hsigning : ((keys.signingKey (.ofNat 1) 1000).run SessionToken.sampleWorld).1 with
    | error e => rw [htold e hsigning]
    | ok found =>
      obtain ⟨row, hrow, -, hexpires⟩ := hafter.1 ⟨found, hsigning⟩
      rw [SessionToken.signingKeys_sampleWorld] at hrow
      obtain rfl := List.mem_singleton.1 hrow
      exact absurd hexpires (by decide)

end Service
end Gatehouse
