import Gatehouse.Proofs.Auth.ApiKeys
import Gatehouse.Proofs.TwoRuns

/-!
# API keys tell nothing of their secrets

A key is made twice with different secrets, and two secrets are presented. What is told of them is
whether the digest of a new secret is taken already, and which class a refused secret is of. When a
key is not made, what the store has said about that is settled by the message of the failure.
-/

namespace Gatehouse

open Call (Agree)

variable {σ : Type} {w v : World σ}

namespace ApiKeys

/-! ## New keys -/

/-- Two API keys that differ in their secrets are stored alike, if both digests are taken or none is. -/
theorem agree_createApiKey {key key' : NewApiKey} (h : w.Twins v)
    (hkey : key.row.erased = key'.row.erased) (hrecord : key.record = key'.record) :
    Agree (Statement.digestTaken key.row w.tables = Statement.digestTaken key'.row v.tables) Eq
      ((Store.createApiKey key).run w) ((Store.createApiKey key').run v) := by
  refine Agree.bind ((Call.agree_transact h ?_ ?_).telling _) fun _ _ _ _ _ _ _ h' =>
    .ok hrecord h'
  · intro db db' hdb hdb'
    rw [Statement.all_singleton] at hdb hdb'
    obtain ⟨-, -, -, -, -, -, rfl⟩ := Statement.insertApiKey_eq_ok_iff.1 hdb
    obtain ⟨-, -, -, -, -, -, rfl⟩ := Statement.insertApiKey_eq_ok_iff.1 hdb'
    rw [Database.erased_insertApiKey, Database.erased_insertApiKey, h.tables, hkey]
  · intro htaken
    rw [Statement.all_singleton, Statement.all_singleton]
    exact Statement.map_insertApiKey_eq hkey h.tables htaken

/-- The digest of a secret is stored already. -/
def Taken (secret : Uuid) (db : Database) : Prop :=
  ∃ row ∈ db.apiKeys, row.secretDigest = digest secret

section Create

variable (id projectId : Uuid) (displayName : String) (authenticationOnly : Bool) (now : Int)

theorem digestTaken_newKey_iff {secret : Uuid} {db : Database} : Statement.digestTaken
    (newKey ⟨id, secret⟩ projectId displayName authenticationOnly now).row db = true ↔
      Taken secret db := by
  simp only [Statement.digestTaken, List.any_eq_true, beq_iff_eq, NewApiKey.row, newKey, Taken]

/-- Making a key tells nothing of its secret, but that its digest is taken if it is. -/
theorem agree_create (h : w.Twins v) (secret secret' : Uuid) :
    Agree (Taken secret w.tables ↔ Taken secret' v.tables) (fun _ _ => True)
      ((create ⟨id, secret⟩ projectId displayName authenticationOnly now).run w)
      ((create ⟨id, secret'⟩ projectId displayName authenticationOnly now).run v) := by
  -- The two rows differ in the digest only, which is erased; the two records do not differ at all.
  let key secret := newKey ⟨id, secret⟩ projectId displayName authenticationOnly now
  have hkey : (key secret).row.erased = (key secret').row.erased := by
    simp only [key, NewApiKey.row, newKey, ApiKeyRow.erased]
  have hrecord : (key secret).record = (key secret').record := by
    simp only [key, NewApiKey.record, newKey]
  have hstored := (agree_createApiKey h hkey hrecord).mapError AuthError.ofStore
  refine Agree.imp (hstored.bind fun record record' w' v' _ _ hsame h' => ?_) fun htaken => ?_
  · subst hsame
    exact (Call.agree_emit h' rfl).bind fun _ _ _ _ _ _ _ h => .ok trivial h
  · rw [Bool.eq_iff_iff, digestTaken_newKey_iff, digestTaken_newKey_iff]
    exact htaken

/-- An API key is refused with a warning exactly if another writer is in the way of its tables. -/
theorem warnings_of_insertApiKey {row : ApiKeyRow} {db : Database} {e : StoreError}
    (h : Statement.insertApiKey row db = .error e) : Store.warnings e =
      match db.writable [.apiKeys, .projects] with
      | .ok () => []
      | .error e => Store.warnings e := by
  rw [Statement.insertApiKey] at h
  rcases hwritable : db.writable [.apiKeys, .projects] with e' | ⟨⟩
  · rw [hwritable] at h
    obtain rfl := Except.error.inj h
    rfl
  · -- What is said of an API key itself is never that another writer is in its way.
    rw [hwritable] at h
    dsimp only [bind, Except.bind] at h
    split_ifs at h
    all_goals
      obtain rfl := Except.error.inj h
      rfl

/-- If a key is not made with either of two secrets, the same is said of that. -/
theorem log_create_of_error (h : w.Twins v) {secret secret' : Uuid} {f f' : AuthError}
    (hfail : ((create ⟨id, secret⟩ projectId displayName authenticationOnly now).run w).1 =
      .error f)
    (hfail' : ((create ⟨id, secret'⟩ projectId displayName authenticationOnly now).run v).1 =
      .error f') :
    ((create ⟨id, secret⟩ projectId displayName authenticationOnly now).run w).2.log =
      ((create ⟨id, secret'⟩ projectId displayName authenticationOnly now).run v).2.log := by
  rcases run_create ⟨id, secret⟩ projectId displayName authenticationOnly now w with
    ⟨e, hinsert, hrun⟩ | ⟨hok, -⟩
  · rcases run_create ⟨id, secret'⟩ projectId displayName authenticationOnly now v with
      ⟨e', hinsert', hrun'⟩ | ⟨hok', -⟩
    · have hwritable : w.tables.writable = v.tables.writable := by
        funext ts
        rw [← Database.writable_erased, h.tables, Database.writable_erased]
      rw [hrun, hrun', warnings_of_insertApiKey hinsert, warnings_of_insertApiKey hinsert',
        hwritable, h.log]
    · cases hok'.symm.trans hfail'
  · cases hok.symm.trans hfail

end Create

/-! ## Presented secrets -/

/-- A presented secret is no external id of a secret. -/
def Malformed (secret : String) : Prop :=
  ∃ e, IdFormat.apiKeySecret.parse secret = .error e

/-- A presented secret is well formed, and no key has its digest. -/
def Unknown (secret : String) (db : Database) : Prop :=
  ∃ token, IdFormat.apiKeySecret.parse secret = .ok token ∧ ¬ Taken token db

/-- Two presented secrets are of one class: both malformed, or both well formed and unknown. -/
def SameClass (secret secret' : String) (db db' : Database) : Prop :=
  (Malformed secret ∧ Malformed secret') ∨ (Unknown secret db ∧ Unknown secret' db')

theorem agree_refuse {α : Type} {p : Prop} {R : α → α → Prop} (h : w.Twins v) (message : String)
    (fields : Log.Fields) :
    Agree p R ((refuse message fields).run w) ((refuse message fields).run v) :=
  (Call.agree_emit h rfl).bind fun _ _ _ _ _ _ _ h => .error AuthError.unauthenticated h

theorem authenticate_of_malformed {secret : String} (h : Malformed secret) :
    authenticate secret = (refuse "Malformed backend API key secret" : Call σ _ _) := by
  obtain ⟨e, he⟩ := h
  rw [authenticate, he]

/-- The search for an unknown secret finds nothing, unless the table cannot be read. -/
theorem run_authenticate_of_unknown {secret : String} (h : Unknown secret w.tables) :
    (authenticate secret).run w =
      ((Store.read (Database.require · [.apiKeys])).mapError AuthError.ofStore >>= fun _ =>
        refuse "Unknown backend API key presented").run w := by
  obtain ⟨token, htoken, htaken⟩ := h
  have hnone : w.tables.findApiKey (digest token) =
      w.tables.require [.apiKeys] >>= fun _ => .ok none :=
    Database.findApiKey_of_not_stored fun row hrow hdigest => htaken ⟨row, hrow, hdigest⟩
  rw [authenticate, htoken]
  dsimp only
  rw [Call.run_bind, Call.run_bind, Call.run_mapError, Call.run_mapError, Store.findApiKey]
  rcases hrequire : w.tables.require [.apiKeys] with e | ⟨⟩
  · rw [hrequire] at hnone
    rw [Store.run_read_of_error hnone, Store.run_read_of_error hrequire]
    rfl
  · rw [hrequire] at hnone
    rw [Store.run_read_of_ok hnone, Store.run_read_of_ok hrequire]
    rfl

/-- A secret that is accepted leaves no trace. -/
theorem eq_of_run_authenticate_eq_ok {secret : String} {key : ApiKeyIdentity} {w' : World σ}
    (h : (authenticate secret).run w = (.ok key, w')) : w' = w := by
  rw [authenticate] at h
  cases hparse : IdFormat.apiKeySecret.parse secret with
  | error e =>
    rw [hparse] at h
    cases congrArg Prod.fst h
  | ok token =>
    rw [hparse] at h
    obtain ⟨found, mid, hfind, hrest⟩ := Call.run_bind_eq_ok_iff.1 h
    obtain ⟨-, rfl⟩ := Store.run_read_eq_ok_iff.1 (Call.run_mapError_eq_ok_iff.1 hfind)
    cases found with
    | none => cases congrArg Prod.fst hrest
    | some record =>
      dsimp only at hrest
      split at hrest
      · cases congrArg Prod.fst hrest
      · exact (congrArg Prod.snd hrest).symm

/-- Presenting a secret tells nothing of it but its class. -/
theorem agree_authenticate (h : w.Twins v) (secret secret' : String) :
    Agree (SameClass secret secret' w.tables v.tables) (fun _ _ => True)
      ((authenticate secret).run w) ((authenticate secret').run v) where
  succeed key key' hkey hkey' := by
    have hw : ((authenticate secret).run w).2 = w :=
      eq_of_run_authenticate_eq_ok (Prod.ext hkey rfl)
    have hv : ((authenticate secret').run v).2 = v :=
      eq_of_run_authenticate_eq_ok (Prod.ext hkey' rfl)
    rw [hw, hv]
    exact ⟨trivial, h⟩
  alike hclass := by
    rcases hclass with ⟨hsecret, hsecret'⟩ | ⟨hsecret, hsecret'⟩
    · rw [authenticate_of_malformed hsecret, authenticate_of_malformed hsecret']
      exact (agree_refuse (p := True) (R := Eq) h _ _).alike trivial
    · have hrequire : w.tables.require [.apiKeys] = v.tables.require [.apiKeys] := by
        rw [← Database.require_erased, h.tables, Database.require_erased]
      rw [run_authenticate_of_unknown hsecret, run_authenticate_of_unknown hsecret']
      refine (Agree.bind (p := True) (R := Eq) (S := Eq) ((Call.agree_read h ?_ ?_).mapError _)
        fun _ _ _ _ _ _ _ h' => agree_refuse h' _ _).alike trivial
      · exact fun _ _ _ _ => rfl
      · exact fun _ => hrequire ▸ .refl _

end ApiKeys
end Gatehouse
