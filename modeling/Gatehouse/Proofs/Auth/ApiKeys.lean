import Gatehouse.Proofs.Auth.Bearer
import Gatehouse.Proofs.Store.Invariant

/-!
# The life of an API key

Keys are made and revoked over the life of a store, with any outcome, and other operations come
between. What happened is a list of events, oldest first, and the events alone say which secrets are
accepted: those that were handed out for keys that have not been revoked since.

What carries the proof is that the table of keys can be told from the events. A key gets its row
when it is made, a row is never taken away, and only its own revocation changes it.
-/

namespace Gatehouse

namespace ApiKeys

variable {σ : Type}

/-! ## Events -/

/-- What happened to a key, with the outcome. -/
inductive Event where
  | create (draw : ApiKeyDraw) (outcome : Except AuthError CreatedApiKey)
  | revoke (projectId id : Uuid) (outcome : Except StoreError Unit)

/-- Whether an event revokes a key of a project. -/
def Event.revokes (projectId id : Uuid) : Event → Bool
  | .revoke projectId' id' (.ok _) => projectId' == projectId && id' == id
  | _ => false

theorem Event.revokes_iff {projectId id : Uuid} {e : Event} :
    e.revokes projectId id = true ↔ e = .revoke projectId id (.ok ()) := by
  cases e with
  | create draw outcome => simp [revokes]
  | revoke projectId' id' outcome =>
    cases outcome with
    | error e => simp [revokes]
    | ok u => simp [revokes]

/-- The row of a key that was made, after some more events. -/
def rowAfter (draw : ApiKeyDraw) (created : CreatedApiKey) (later : List Event) : ApiKeyRow where
  id := created.record.id.text
  projectId := created.record.projectId.text
  displayName := created.record.displayName
  secretDigest := digest draw.secret
  authenticationOnly := created.record.authenticationOnly
  revoked := later.any (·.revokes created.record.projectId created.record.id)
  createdAt := created.record.createdAt

theorem revoked_rowAfter {draw : ApiKeyDraw} {created : CreatedApiKey} {later : List Event} :
    (rowAfter draw created later).revoked = true ↔
      .revoke created.record.projectId created.record.id (.ok ()) ∈ later := by
  rw [rowAfter, List.any_eq_true]
  constructor
  · rintro ⟨e, he, hrevokes⟩
    exact Event.revokes_iff.1 hrevokes ▸ he
  · intro h
    exact ⟨_, h, Event.revokes_iff.2 rfl⟩

theorem isKeyOf_rowAfter {draw : ApiKeyDraw} {created : CreatedApiKey} {later : List Event}
    {projectId id : Uuid} : (rowAfter draw created later).isKeyOf projectId id = true ↔
      created.record.projectId = projectId ∧ created.record.id = id := by
  simp [ApiKeyRow.isKeyOf, rowAfter]

/-- The rows of the keys that some events have made. -/
def rowsOf : List Event → List ApiKeyRow
  | [] => []
  | .create draw (.ok created) :: es => rowAfter draw created es :: rowsOf es
  | .create _ (.error _) :: es => rowsOf es
  | .revoke _ _ _ :: es => rowsOf es

/-- There is a row for each key that was made, and no other. -/
theorem mem_rowsOf {es : List Event} {row : ApiKeyRow} :
    row ∈ rowsOf es ↔ ∃ draw created later,
      .create draw (.ok created) :: later <:+ es ∧ row = rowAfter draw created later := by
  induction es with
  | nil => simp [rowsOf]
  | cons e es ih =>
    simp only [List.suffix_cons_iff]
    -- The first event is the making of a key, or it adds no row.
    have hskip : rowsOf (e :: es) = rowsOf es → (∀ draw created later,
        Event.create draw (.ok created) :: later ≠ e :: es) → (row ∈ rowsOf (e :: es) ↔
          ∃ draw created later, (.create draw (.ok created) :: later = e :: es ∨
            .create draw (.ok created) :: later <:+ es) ∧ row = rowAfter draw created later) := by
      intro hrows hne
      simp only [hrows, ih, hne, false_or]
    cases e with
    | create draw outcome =>
      cases outcome with
      | error e => exact hskip rfl (by simp)
      | ok created =>
        rw [rowsOf, List.mem_cons, ih]
        constructor
        · rintro (rfl | ⟨draw', created', later, hsuffix, hrow⟩)
          · exact ⟨draw, created, es, .inl rfl, rfl⟩
          · exact ⟨draw', created', later, .inr hsuffix, hrow⟩
        · rintro ⟨draw', created', later, hfirst | hsuffix, hrow⟩
          · obtain ⟨hevent, rfl⟩ := List.cons.inj hfirst
            obtain ⟨rfl, hok⟩ := Event.create.inj hevent
            obtain rfl := Except.ok.inj hok
            exact .inl hrow
          · exact .inr ⟨draw', created', later, hsuffix, hrow⟩
    | revoke projectId id outcome => exact hskip rfl (by simp)

/-- What an event does to the rows. -/
def Event.apply : Event → List ApiKeyRow → List ApiKeyRow
  | .create draw (.ok created), rows => rows ++ [rowAfter draw created []]
  | .create _ (.error _), rows => rows
  | .revoke projectId id (.ok _), rows =>
    rows.map fun k => if k.isKeyOf projectId id then { k with revoked := true } else k
  | .revoke _ _ (.error _), rows => rows

theorem Event.apply_cons (e : Event) (draw : ApiKeyDraw) (created : CreatedApiKey)
    (later : List Event) (rows : List ApiKeyRow) :
    e.apply (rowAfter draw created later :: rows) =
      rowAfter draw created (later ++ [e]) :: e.apply rows := by
  -- An event that does not revoke the key leaves its row as it is.
  have hsame : e.revokes created.record.projectId created.record.id = false →
      rowAfter draw created (later ++ [e]) = rowAfter draw created later := by
    intro h
    simp [rowAfter, h]
  cases e with
  | create draw' outcome =>
    cases outcome with
    | error e => rw [apply, apply, hsame rfl]
    | ok created' => rw [apply, apply, hsame rfl, List.cons_append]
  | revoke projectId id outcome =>
    cases outcome with
    | error e => rw [apply, apply, hsame rfl]
    | ok u =>
      have hrow : (if (rowAfter draw created later).isKeyOf projectId id then
          { rowAfter draw created later with revoked := true } else rowAfter draw created later) =
            rowAfter draw created (later ++ [.revoke projectId id (.ok u)]) := by
        by_cases hkey : (rowAfter draw created later).isKeyOf projectId id = true
        · obtain ⟨rfl, rfl⟩ := isKeyOf_rowAfter.1 hkey
          rw [if_pos hkey]
          simp [rowAfter, Event.revokes]
        · rw [if_neg hkey, hsame]
          rw [isKeyOf_rowAfter] at hkey
          rw [← Bool.not_eq_true, Event.revokes_iff]
          intro heq
          obtain ⟨hproject, hid, -⟩ := Event.revoke.inj heq
          exact hkey ⟨hproject.symm, hid.symm⟩
      rw [apply, apply, List.map_cons, hrow]

/-- One more event does to the rows what it does to the table. -/
theorem rowsOf_concat (es : List Event) (e : Event) : rowsOf (es ++ [e]) = e.apply (rowsOf es) := by
  induction es with
  | nil =>
    cases e with
    | create draw outcome => cases outcome <;> rfl
    | revoke projectId id outcome => cases outcome <;> rfl
  | cons first es ih =>
    cases first with
    | create draw outcome =>
      cases outcome with
      | error _ => exact ih
      | ok created => rw [List.cons_append, rowsOf, rowsOf, Event.apply_cons, ih]
    | revoke projectId id outcome => exact ih

/-! ## Runs -/

/-- A new key as it is stored. -/
def newKey (draw : ApiKeyDraw) (projectId : Uuid) (displayName : String) (authenticationOnly : Bool)
    (now : Int) : NewApiKey where
  id := draw.id
  projectId := projectId
  displayName := displayName
  secretDigest := digest draw.secret
  authenticationOnly := authenticationOnly
  createdAt := now

/-- The worlds that the making and revoking of keys can lead to from a new store, with what happened
until then. Other operations may come between if they write no keys themselves, and so may calls that
leave the tables as they are. -/
inductive Run : World σ → List Event → Prop where
  | fresh {w : World σ} (h : w.tables = .empty) : Run w []
  | create {w : World σ} {es : List Event} (h : Run w es) (draw : ApiKeyDraw) (projectId : Uuid)
      (displayName : String) (authenticationOnly : Bool) (now : Int) :
      Run ((ApiKeys.create draw projectId displayName authenticationOnly now).run w).2
        (es ++ [.create draw
          ((ApiKeys.create draw projectId displayName authenticationOnly now).run w).1])
  | revoke {w : World σ} {es : List Event} (h : Run w es) (projectId id : Uuid) :
      Run ((ApiKeys.revoke projectId id).run w).2
        (es ++ [.revoke projectId id ((ApiKeys.revoke projectId id).run w).1])
  | store {w : World σ} {es : List Event} (h : Run w es) (c : Store.Command)
      (hc : c.writesApiKeys = false) : Run (c.call.run w).2 es
  | read {w w' : World σ} {es : List Event} (h : Run w es) (htables : w'.tables = w.tables) :
      Run w' es

/-- A key is made and its secret handed out, or it cannot be stored and nothing is left but a warning,
if another writer was in the way. -/
theorem run_create (draw : ApiKeyDraw) (projectId : Uuid) (displayName : String)
    (authenticationOnly : Bool) (now : Int) (w : World σ) :
    let key := newKey draw projectId displayName authenticationOnly now
    let result := (create draw projectId displayName authenticationOnly now).run w
    (∃ e, Statement.insertApiKey key.row w.tables = .error e ∧
        result = (.error (.ofStore e), { w with log := w.log ++ Store.warnings e })) ∨
      result.1 = .ok ⟨key.record, IdFormat.apiKeySecret.format draw.secret⟩ ∧
        Statement.insertApiKey key.row w.tables = .ok result.2.tables := by
  intro key result
  cases hall : Statement.all [.insertApiKey key.row] w.tables with
  | error e =>
    left
    have hinsert : Statement.insertApiKey key.row w.tables = .error e := by
      rwa [Statement.all_singleton] at hall
    have hstore : (Store.createApiKey key).run w =
        (.error e, { w with log := w.log ++ Store.warnings e }) :=
      Call.run_bind_of_error (Store.run_runAll_of_error hall) _
    have hmapped : ((Store.createApiKey key).mapError AuthError.ofStore).run w =
        (.error (.ofStore e), { w with log := w.log ++ Store.warnings e }) := by
      rw [Call.run_mapError, hstore]
      rfl
    exact ⟨e, hinsert, Call.run_bind_of_error hmapped _⟩
  | ok db =>
    right
    have hstore : (Store.createApiKey key).run w = (.ok key.record, { w with tables := db }) :=
      Call.run_bind_of_ok (Store.run_runAll_of_ok hall) _
    have hmapped : ((Store.createApiKey key).mapError AuthError.ofStore).run w =
        (.ok key.record, { w with tables := db }) := by
      rw [Call.run_mapError, hstore]
      rfl
    have hresult : result = _ := Call.run_bind_of_ok hmapped _
    rw [hresult]
    exact ⟨rfl, Statement.all_singleton_eq_ok_iff.1 hall⟩

/-- A key is revoked, or no table is changed. -/
theorem run_revoke (projectId id : Uuid) (w : World σ) :
    let result := (revoke projectId id).run w
    (∃ e, result.1 = .error e ∧ result.2.tables = w.tables) ∨
      result.1 = .ok () ∧ Statement.revokeApiKey projectId id w.tables = .ok result.2.tables := by
  intro result
  cases hs : Statement.revokeApiKey projectId id w.tables with
  | error e =>
    have hall : Statement.all [.revokeApiKey projectId id] w.tables = .error e := by
      rw [Statement.all_cons, hs]
      rfl
    have hresult : result = _ := Call.run_bind_of_error (Store.run_runAll_of_error hall) _
    rw [hresult]
    exact .inl ⟨e, rfl, rfl⟩
  | ok db =>
    have hall : Statement.all [.revokeApiKey projectId id] w.tables = .ok db :=
      Statement.all_singleton_eq_ok_iff.2 hs
    have hresult : result = _ := Call.run_bind_of_ok (Store.run_runAll_of_ok hall) _
    rw [hresult]
    exact .inr ⟨rfl, rfl⟩

/-- What is known of a world after some events. -/
structure Inv (w : World σ) (es : List Event) : Prop where
  reachable : Store.Reachable w.tables
  /-- The table of keys can be told from the events. -/
  rows : w.tables.apiKeys = rowsOf es
  /-- The secrets that were handed out are the external forms of those that were drawn. -/
  secrets : ∀ draw created, .create draw (.ok created) ∈ es →
    created.secret = IdFormat.apiKeySecret.format draw.secret

theorem Inv.create {w : World σ} {es : List Event} (h : Inv w es) (draw : ApiKeyDraw)
    (projectId : Uuid) (displayName : String) (authenticationOnly : Bool) (now : Int) :
    Inv ((ApiKeys.create draw projectId displayName authenticationOnly now).run w).2
      (es ++ [.create draw
        ((ApiKeys.create draw projectId displayName authenticationOnly now).run w).1]) := by
  rcases run_create draw projectId displayName authenticationOnly now w with
    ⟨e, -, hresult⟩ | ⟨houtcome, hinsert⟩
  · rw [hresult]
    refine ⟨h.reachable, ?_, ?_⟩
    · rw [rowsOf_concat]
      exact h.rows
    · intro draw' created hmem
      rcases List.mem_append.1 hmem with hmem | hmem
      · exact h.secrets draw' created hmem
      · cases List.mem_singleton.1 hmem
  · rw [houtcome]
    have hreachable := h.reachable.of_statements (.createApiKey _)
      (Statement.all_singleton_eq_ok_iff.2 hinsert)
    obtain ⟨-, -, -, -, -, -, htables⟩ := Statement.insertApiKey_eq_ok_iff.1 hinsert
    refine ⟨hreachable, ?_, ?_⟩
    · rw [htables, rowsOf_concat, h.rows]
      rfl
    · intro draw' created hmem
      rcases List.mem_append.1 hmem with hmem | hmem
      · exact h.secrets draw' created hmem
      · obtain ⟨rfl, hok⟩ := Event.create.inj (List.mem_singleton.1 hmem)
        rw [Except.ok.inj hok]

theorem Inv.revoke {w : World σ} {es : List Event} (h : Inv w es) (projectId id : Uuid) :
    Inv ((ApiKeys.revoke projectId id).run w).2
      (es ++ [.revoke projectId id ((ApiKeys.revoke projectId id).run w).1]) := by
  have hsecrets : ∀ outcome draw created,
      .create draw (.ok created) ∈ es ++ [.revoke projectId id outcome] →
        created.secret = IdFormat.apiKeySecret.format draw.secret := by
    intro outcome draw created hmem
    rcases List.mem_append.1 hmem with hmem | hmem
    · exact h.secrets draw created hmem
    · cases List.mem_singleton.1 hmem
  rcases run_revoke projectId id w with ⟨e, houtcome, hsame⟩ | ⟨houtcome, hrevoke⟩
  · rw [houtcome]
    refine ⟨hsame ▸ h.reachable, ?_, hsecrets _⟩
    rw [hsame, rowsOf_concat]
    exact h.rows
  · rw [houtcome]
    have hreachable := h.reachable.of_statements (.revokeApiKey projectId id)
      (Statement.all_singleton_eq_ok_iff.2 hrevoke)
    obtain ⟨-, -, -, htables⟩ := Statement.revokeApiKey_eq_ok_iff.1 hrevoke
    refine ⟨hreachable, ?_, hsecrets _⟩
    rw [htables, rowsOf_concat, h.rows]
    rfl

/-- By induction on the run, with one case for each thing that can happen. -/
theorem Run.inv {w : World σ} {es : List Event} (h : Run w es) : Inv w es := by
  induction h with
  | fresh hempty =>
    refine ⟨?_, ?_, nofun⟩
    · rw [hempty]
      exact .fresh
    · rw [hempty]
      rfl
  | create _ draw projectId displayName authenticationOnly now ih =>
    exact ih.create draw projectId displayName authenticationOnly now
  | revoke _ projectId id ih => exact ih.revoke projectId id
  | store _ c hc ih =>
    refine ⟨?_, ?_, ih.secrets⟩
    · rw [c.tables_run_call]
      exact .step c ih.reachable
    · rw [c.tables_run_call, Store.Command.apiKeys_after ih.reachable.conforms hc]
      exact ih.rows
  | read _ htables ih =>
    refine ⟨?_, ?_, ih.secrets⟩
    · rw [htables]
      exact ih.reachable
    · rw [htables]
      exact ih.rows

/-! ## Secrets -/

/-- A secret was handed out for a key, and the key has not been revoked since. -/
def Live (es : List Event) (secret : String) (key : ApiKeyIdentity) : Prop :=
  ∃ draw created later, .create draw (.ok created) :: later <:+ es ∧ created.secret = secret ∧
    created.record.id = key.apiKeyId ∧ created.record.projectId = key.projectId ∧
    created.record.authenticationOnly = key.authenticationOnly ∧
    .revoke key.projectId key.apiKeyId (.ok ()) ∉ later

/-- No other secret that was drawn has the digest of this one. -/
def CollisionFree (es : List Event) (secret : String) : Prop :=
  ∀ token draw created, secret = IdFormat.apiKeySecret.format token →
    .create draw (.ok created) ∈ es → digest draw.secret = digest token → draw.secret = token

/-- If different sixteen bytes have different digests, there are no collisions at all. -/
theorem collisionFree_of_injective
    (hhash : ∀ a b : Bytes, a.length = 16 → b.length = 16 → Sha256.hash a = Sha256.hash b → a = b)
    (es : List Event) (secret : String) : CollisionFree es secret := by
  intro token draw created _ _ hdigest
  have hbytes := hhash _ _ draw.secret.length_toBytes token.length_toBytes hdigest
  exact Uuid.toBytes_injective hbytes

section Secrets

variable {w : World σ} {es : List Event}

/-- A key that was made has its row in the table. -/
theorem Inv.mem_apiKeys (h : Inv w es) {draw : ApiKeyDraw} {created : CreatedApiKey}
    {later : List Event} (hsuffix : .create draw (.ok created) :: later <:+ es) :
    rowAfter draw created later ∈ w.tables.apiKeys := by
  rw [h.rows]
  exact mem_rowsOf.2 ⟨draw, created, later, hsuffix, rfl⟩

/-- A secret that was handed out opens its key until the key is revoked. -/
theorem Inv.opens_of_live (h : Inv w es) {secret : String} {key : ApiKeyIdentity}
    (hlive : Live es secret key) :
    ∃ token, secret = IdFormat.apiKeySecret.format token ∧ Opens w.tables token key := by
  obtain ⟨draw, created, later, hsuffix, rfl, hid, hproject, honly, hkept⟩ := hlive
  have hmem : .create draw (.ok created) ∈ es := hsuffix.subset List.mem_cons_self
  have hrow := h.mem_apiKeys hsuffix
  have hrevoked : (rowAfter draw created later).revoked = false := by
    rw [← Bool.not_eq_true, revoked_rowAfter, hid, hproject]
    exact hkept
  exact ⟨draw.secret, h.secrets draw created hmem, _, hrow, rfl, hrevoked,
    congrArg Uuid.text hid, congrArg Uuid.text hproject, honly⟩

/-- A key that a secret opens was made with a secret of the same digest, and has not been revoked
since. -/
theorem Inv.live_of_opens (h : Inv w es) {token : Uuid} {key : ApiKeyIdentity}
    (hopens : Opens w.tables token key) (hfree : CollisionFree es
      (IdFormat.apiKeySecret.format token)) :
    Live es (IdFormat.apiKeySecret.format token) key := by
  obtain ⟨row, hrow, hdigest, hrevoked, hid, hproject, honly⟩ := hopens
  rw [h.rows, mem_rowsOf] at hrow
  obtain ⟨draw, created, later, hsuffix, rfl⟩ := hrow
  have hmem : .create draw (.ok created) ∈ es := hsuffix.subset List.mem_cons_self
  have hid' : created.record.id = key.apiKeyId := Uuid.text_injective hid
  have hproject' : created.record.projectId = key.projectId := Uuid.text_injective hproject
  have htoken : draw.secret = token := hfree token draw created rfl hmem hdigest
  refine ⟨draw, created, later, hsuffix, ?_, hid', hproject', honly, ?_⟩
  · rw [h.secrets draw created hmem, htoken]
  · rw [← hid', ← hproject', ← revoked_rowAfter, hrevoked]
    exact Bool.false_ne_true

/-- The row of a key that was made and revoked is the only one with the digest of its secret. -/
theorem Inv.not_opens_of_revoked (h : Inv w es) {draw : ApiKeyDraw} {created : CreatedApiKey}
    {later : List Event} (hsuffix : .create draw (.ok created) :: later <:+ es)
    (hrevoke : .revoke created.record.projectId created.record.id (.ok ()) ∈ later)
    (key : ApiKeyIdentity) : ¬Opens w.tables draw.secret key := by
  rintro ⟨row, hrow, hdigest, hkept, -⟩
  have hmem := h.mem_apiKeys hsuffix
  have hsame : row = rowAfter draw created later :=
    Database.eq_of_nodup_map h.reachable.conforms.digests hrow hmem hdigest
  rw [hsame, revoked_rowAfter.2 hrevoke] at hkept
  cases hkept

/-- Whoever names a key of another project has named no key. -/
theorem Inv.revoke_other_project (h : Inv w es) {draw : ApiKeyDraw} {created : CreatedApiKey}
    (hmem : .create draw (.ok created) ∈ es) {projectId : Uuid}
    (hother : projectId ≠ created.record.projectId) :
    (ApiKeys.revoke projectId created.record.id).run w =
      (.error (.notFound s!"backend api key {created.record.id}"), w) := by
  obtain ⟨before, later, rfl⟩ := List.append_of_mem hmem
  have hrow := h.mem_apiKeys (List.suffix_append before _)
  -- The id is that of one row only, and this row belongs to the other project.
  have hnone : w.tables.apiKeys.any (·.isKeyOf projectId created.record.id) = false := by
    rw [List.any_eq_false]
    intro k hk hkey
    simp only [ApiKeyRow.isKeyOf, Bool.and_eq_true, beq_iff_eq] at hkey
    have hsame : k = rowAfter draw created later :=
      Database.eq_of_nodup_map h.reachable.conforms.apiKeyIds hk hrow hkey.2
    rw [hsame] at hkey
    exact hother (Uuid.text_injective hkey.1).symm
  have hfails : Statement.revokeApiKey projectId created.record.id w.tables =
      .error (.notFound s!"backend api key {created.record.id}") := by
    rw [Statement.revokeApiKey, h.reachable.conforms.writable_bind, hnone]
    rfl
  have hall : Statement.all [.revokeApiKey projectId created.record.id] w.tables =
      .error (.notFound s!"backend api key {created.record.id}") := by
    rw [Statement.all_cons, hfails]
    rfl
  -- That nothing is found is no reason for a warning.
  have hrun : (ApiKeys.revoke projectId created.record.id).run w = _ :=
    Call.run_bind_of_error (Store.run_runAll_of_error hall) _
  have hquiet : ∀ detail, Store.warnings (.notFound detail) = [] := fun _ => rfl
  rw [hrun, hquiet, List.append_nil]

/-- Only the external form of sixteen bytes that open a key is accepted, and for that key. -/
theorem Inv.authenticate_eq_ok_iff (h : Inv w es) {secret : String} {key : ApiKeyIdentity} :
    ((authenticate secret).run w).1 = .ok key ↔
      ∃ token, secret = IdFormat.apiKeySecret.format token ∧ Opens w.tables token key := by
  have hdb := h.reachable.conforms
  rw [(reads_authenticate secret w).1]
  constructor
  · intro hok
    by_contra hnone
    have hrefused : holder secret w.tables = .error .unauthenticated := by
      refine holder_of_not_opens hdb fun token key' hsecret hopens => ?_
      subst hsecret
      -- The holder is the one that was found, so it is this key that the token opens.
      rw [holder_of_opens hdb hopens] at hok
      exact hnone ⟨token, rfl, Except.ok.inj hok ▸ hopens⟩
    rw [hrefused] at hok
    cases hok
  · rintro ⟨token, rfl, hopens⟩
    exact holder_of_opens hdb hopens

end Secrets

/-- **The life of API keys.** After any making and revoking of keys, a secret that was handed out for
a key is accepted for this key, unless the key has been revoked since, and no other secret is: this
last point needs a secret whose digest no other one has. A secret is not accepted once its key has
been revoked, a key cannot be revoked under another project, and it has one secret only, in one
spelling. -/
theorem authenticate_run {w : World σ} {es : List Event} (h : Run w es) :
    (∀ secret key, Live es secret key → ((authenticate secret).run w).1 = .ok key) ∧
    (∀ secret, CollisionFree es secret → ∀ key,
      ((authenticate secret).run w).1 = .ok key ↔ Live es secret key) ∧
    (∀ draw created later, .create draw (.ok created) :: later <:+ es →
      .revoke created.record.projectId created.record.id (.ok ()) ∈ later →
      ((authenticate created.secret).run w).1 = .error .unauthenticated) ∧
    (∀ draw created projectId, .create draw (.ok created) ∈ es →
      projectId ≠ created.record.projectId →
      (revoke projectId created.record.id).run w =
        (.error (.notFound s!"backend api key {created.record.id}"), w)) ∧
    ∀ secret secret' key, CollisionFree es secret → CollisionFree es secret' →
      ((authenticate secret).run w).1 = .ok key → ((authenticate secret').run w).1 = .ok key →
      secret = secret' := by
  have hinv := h.inv
  have haccepted : ∀ secret key, Live es secret key →
      ((authenticate secret).run w).1 = .ok key :=
    fun _ _ hlive => hinv.authenticate_eq_ok_iff.2 (hinv.opens_of_live hlive)
  have hiff : ∀ secret, CollisionFree es secret → ∀ key,
      ((authenticate secret).run w).1 = .ok key ↔ Live es secret key := by
    intro secret hfree key
    refine ⟨fun hok => ?_, haccepted secret key⟩
    obtain ⟨token, rfl, hopens⟩ := hinv.authenticate_eq_ok_iff.1 hok
    exact hinv.live_of_opens hopens hfree
  refine ⟨haccepted, hiff, ?_, ?_, ?_⟩
  · intro draw created later hsuffix hrevoke
    have hmem : .create draw (.ok created) ∈ es := hsuffix.subset List.mem_cons_self
    rw [(reads_authenticate created.secret w).1]
    refine holder_of_not_opens hinv.reachable.conforms fun token key hsecret => ?_
    rw [hinv.secrets draw created hmem] at hsecret
    obtain rfl := IdFormat.format_injective _ hsecret
    exact hinv.not_opens_of_revoked hsuffix hrevoke key
  · intro draw created projectId hmem hother
    exact hinv.revoke_other_project hmem hother
  · intro secret secret' key hfree hfree' hok hok'
    obtain ⟨draw, created, later, hsuffix, rfl, hid, -⟩ := (hiff secret hfree key).1 hok
    obtain ⟨draw', created', later', hsuffix', rfl, hid', -⟩ := (hiff secret' hfree' key).1 hok'
    have hmem : .create draw (.ok created) ∈ es := hsuffix.subset List.mem_cons_self
    have hmem' : .create draw' (.ok created') ∈ es := hsuffix'.subset List.mem_cons_self
    have hrow := hinv.mem_apiKeys hsuffix
    have hrow' := hinv.mem_apiKeys hsuffix'
    -- Both secrets were handed out for the id, which is that of one row only.
    have hsame : rowAfter draw created later = rowAfter draw' created' later' := by
      refine Database.eq_of_nodup_map hinv.reachable.conforms.apiKeyIds hrow hrow' ?_
      exact congrArg Uuid.text (hid.trans hid'.symm)
    have hdigest : digest draw.secret = digest draw'.secret :=
      congrArg ApiKeyRow.secretDigest hsame
    have hdraw := hfree' draw'.secret draw created (hinv.secrets draw' created' hmem') hmem hdigest
    rw [hinv.secrets draw created hmem, hinv.secrets draw' created' hmem', hdraw]

/-! ## A key that is made and revoked -/

/-- A console in a new store. -/
def consoleWorld : World Unit :=
  ((Store.Command.createConsoleProject Store.sampleConsole).call.run
    (World.mk .empty () [])).2

/-- The random values of a key. -/
def sampleDraw : ApiKeyDraw := ⟨.ofNat 10, .ofNat 7⟩

/-- The console with a key, which is made from these values. -/
def keyWorld : World Unit :=
  ((create sampleDraw (.ofNat 1) "login" true 0).run consoleWorld).2

/-- The console after the key has been revoked. -/
def revokedWorld : World Unit :=
  ((revoke (.ofNat 1) (.ofNat 10)).run keyWorld).2

/-- What the maker of the key is told. -/
def sampleKey : CreatedApiKey where
  record := (newKey sampleDraw (.ofNat 1) "login" true 0).record
  secret := IdFormat.apiKeySecret.format (.ofNat 7)

theorem run_keyWorld : Run keyWorld [.create sampleDraw (.ok sampleKey)] := by
  have hconsole : Run consoleWorld [] := .store (.fresh rfl) (.createConsoleProject _) rfl
  have houtcome : ((create sampleDraw (.ofNat 1) "login" true 0).run consoleWorld).1 =
      .ok sampleKey := rfl
  have hrun := hconsole.create sampleDraw (.ofNat 1) "login" true 0
  rwa [houtcome] at hrun

theorem run_revokedWorld : Run revokedWorld
    [.create sampleDraw (.ok sampleKey), .revoke (.ofNat 1) (.ofNat 10) (.ok ())] := by
  have houtcome : ((revoke (.ofNat 1) (.ofNat 10)).run keyWorld).1 = .ok () := rfl
  have hrun := run_keyWorld.revoke (.ofNat 1) (.ofNat 10)
  rwa [houtcome] at hrun

/-- The secret of the key is accepted before the key is revoked, and refused afterwards. -/
theorem authenticate_run_sampleKey :
    ((authenticate sampleKey.secret).run keyWorld).1 = .ok ⟨.ofNat 10, .ofNat 1, true⟩ ∧
      ((authenticate sampleKey.secret).run revokedWorld).1 = .error .unauthenticated := by
  constructor
  · have hfree : CollisionFree [.create sampleDraw (.ok sampleKey)] sampleKey.secret := by
      intro token draw created htoken hmem _
      obtain ⟨rfl, -⟩ := Event.create.inj (List.mem_singleton.1 hmem)
      exact IdFormat.format_injective _ htoken
    have hlive : Live [.create sampleDraw (.ok sampleKey)] sampleKey.secret
        ⟨.ofNat 10, .ofNat 1, true⟩ :=
      ⟨sampleDraw, sampleKey, [], List.suffix_refl _, rfl, rfl, rfl, rfl, List.not_mem_nil⟩
    exact ((authenticate_run run_keyWorld).2.1 _ hfree _).2 hlive
  · exact (authenticate_run run_revokedWorld).2.2.1 sampleDraw sampleKey _ (List.suffix_refl _)
      (List.mem_singleton.2 rfl)

end ApiKeys
end Gatehouse
