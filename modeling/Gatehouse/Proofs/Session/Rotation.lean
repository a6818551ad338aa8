import Gatehouse.Proofs.Session.KeyMaterial
import Gatehouse.Proofs.Session.Publication
import Gatehouse.Proofs.Session.Tokens
import Gatehouse.Proofs.Store.Effect

/-!
# Active keys over time

The active keys of a project are listed by expiry and then by creation, the latest first. As time
passes keys leave the list at its end, and a new key takes its place among the others without moving
them. So the rows that come into question for signing stay the same until the last of them expires,
and then no key is active. Rows that are alike in both times may stand in any order; nothing here
depends on it.
-/

namespace Gatehouse

/-! ## The order of keys -/

namespace SigningKeyRow

variable {a b c : SigningKeyRow}

/-- A row is as late as another: it expires later, or at the same time and was made no earlier. -/
def AsLate (a b : SigningKeyRow) : Prop :=
  b.expiresAt < a.expiresAt ∨ a.expiresAt = b.expiresAt ∧ b.createdAt ≤ a.createdAt

/-- Two rows are alike in both times. -/
def Tied (a b : SigningKeyRow) : Prop :=
  a.expiresAt = b.expiresAt ∧ a.createdAt = b.createdAt

theorem precedes_eq_true_iff : a.precedes b = true ↔ a.AsLate b := by
  rw [precedes, AsLate, Bool.or_eq_true, Bool.and_eq_true, decide_eq_true_eq, decide_eq_true_eq,
    beq_iff_eq]

theorem AsLate.antisymm (h : a.AsLate b) (h' : b.AsLate a) : a.Tied b := by
  rw [AsLate] at h h'
  rw [Tied]
  omega

theorem asLate_of_lt (h : b.expiresAt < a.expiresAt) : a.AsLate b :=
  .inl h

theorem AsLate.le (h : a.AsLate b) : b.expiresAt ≤ a.expiresAt := by
  rw [AsLate] at h
  omega

/-- The times of a row, which it is sorted by. -/
def times (row : SigningKeyRow) : Int × Int :=
  (row.expiresAt, row.createdAt)

theorem times_eq_iff : a.times = b.times ↔ a.Tied b := by
  rw [times, times, Prod.mk.injEq, Tied]

end SigningKeyRow

open SigningKeyRow

/-! ## Lists of active keys -/

/-- A row is that of a project's key which is active at a time. -/
def ActiveRow (db : Database) (projectId : Uuid) (time : Int) (row : SigningKeyRow) : Prop :=
  row ∈ db.signingKeys ∧ row.projectId = projectId.text ∧ time < row.expiresAt

/-- Some rows are those of a project's active keys, each once and the latest first. -/
structure Listing (db : Database) (projectId : Uuid) (time : Int) (rows : List SigningKeyRow) :
    Prop where
  mem_iff : ∀ row, row ∈ rows ↔ ActiveRow db projectId time row
  nodup : rows.Nodup
  latestFirst : rows.Pairwise AsLate

/-- Two lists have the same rows in the same order, but for rows that are tied. -/
structure SameUpToTies (rows rows' : List SigningKeyRow) : Prop where
  perm : rows.Perm rows'
  tied : List.Forall₂ Tied rows rows'

/-- No active row of a project is later than this one. -/
structure Latest (db : Database) (projectId : Uuid) (time : Int) (row : SigningKeyRow) : Prop where
  active : ActiveRow db projectId time row
  asLate : ∀ other, ActiveRow db projectId time other → row.AsLate other

section Listing

variable {db db' : Database} {projectId : Uuid} {time time' : Int}
  {rows rows' : List SigningKeyRow} {row row' : SigningKeyRow}

/-- Sorting leaves nothing open but the order of tied rows. -/
theorem sameUpToTies_of_perm (hperm : rows.Perm rows') (hrows : rows.Pairwise AsLate)
    (hrows' : rows'.Pairwise AsLate) : SameUpToTies rows rows' := by
  -- No two pairs of times are alike in this order, so a list of them can be sorted in one way only.
  let le : Int × Int → Int × Int → Prop := fun x y => y.1 < x.1 ∨ x.1 = y.1 ∧ y.2 ≤ x.2
  have hsorted : (rows.map times).Pairwise le := List.pairwise_map.2 hrows
  have hsorted' : (rows'.map times).Pairwise le := List.pairwise_map.2 hrows'
  have hantisymm : ∀ x y, le x y → le y x → x = y := by
    intro x y hxy hyx
    dsimp only [le] at hxy hyx
    exact Prod.ext (by omega) (by omega)
  have htimes : rows.map times = rows'.map times :=
    List.Perm.eq_of_pairwise (fun x y _ _ => hantisymm x y) hsorted hsorted' (hperm.map times)
  have hforall : List.Forall₂ (fun a b => times a = times b) rows rows' := by
    rw [← List.forall₂_map_right_iff, ← List.forall₂_map_left_iff, htimes]
    exact List.forall₂_same.2 fun _ _ => rfl
  exact ⟨hperm, hforall.imp fun _ _ h => times_eq_iff.1 h⟩

/-- A list is determined by the keys, up to ties. -/
theorem Listing.sameUpToTies (h : Listing db projectId time rows)
    (h' : Listing db projectId time rows') : SameUpToTies rows rows' := by
  refine sameUpToTies_of_perm ?_ h.latestFirst h'.latestFirst
  exact (List.perm_ext_iff_of_nodup h.nodup h'.nodup).2 fun row =>
    (h.mem_iff row).trans (h'.mem_iff row).symm

/-- The rows that expire after a time stand in front of the others. -/
theorem exists_split (h : rows.Pairwise AsLate) (time : Int) :
    ∃ front rest, rows = front ++ rest ∧ (∀ row ∈ front, time < row.expiresAt) ∧
      ∀ row ∈ rest, row.expiresAt ≤ time := by
  induction rows with
  | nil => exact ⟨[], [], rfl, by simp, by simp⟩
  | cons row rows ih =>
    obtain ⟨hhead, htail⟩ := List.pairwise_cons.1 h
    by_cases hrow : time < row.expiresAt
    · obtain ⟨front, rest, rfl, hfront, hrest⟩ := ih htail
      exact ⟨row :: front, rest, rfl, List.forall_mem_cons.2 ⟨hrow, hfront⟩, hrest⟩
    · -- All further rows expire no later than this one.
      refine ⟨[], row :: rows, rfl, by simp, List.forall_mem_cons.2 ⟨by omega, ?_⟩⟩
      intro other hother
      have hle := (hhead other hother).le
      omega

/-- As time passes, the list becomes an initial segment of itself. -/
theorem Listing.exists_initial (h : Listing db projectId time rows)
    (h' : Listing db projectId time' rows') (htime : time ≤ time') :
    ∃ front rest, rows = front ++ rest ∧ SameUpToTies rows' front := by
  obtain ⟨front, rest, rfl, hfront, hrest⟩ := exists_split h.latestFirst time'
  -- The front is a list of the keys that are active later, and so the other one up to ties.
  refine ⟨front, rest, rfl, h'.sameUpToTies ?_⟩
  constructor
  · intro row
    constructor
    · intro hrow
      obtain ⟨hmem, hproject, -⟩ := (h.mem_iff row).1 (List.mem_append_left rest hrow)
      exact ⟨hmem, hproject, hfront row hrow⟩
    · rintro ⟨hmem, hproject, hexpires⟩
      have hrow := (h.mem_iff row).2 ⟨hmem, hproject, by omega⟩
      rcases List.mem_append.1 hrow with hrow | hrow
      · exact hrow
      · exact absurd (hrest row hrow) (by omega)
  · exact h.nodup.sublist (List.sublist_append_left front rest)
  · exact h.latestFirst.sublist (List.sublist_append_left front rest)

theorem Listing.latest_head {rest : List SigningKeyRow}
    (h : Listing db projectId time (row :: rest)) : Latest db projectId time row := by
  refine ⟨(h.mem_iff row).1 List.mem_cons_self, fun other hother => ?_⟩
  rcases List.mem_cons.1 ((h.mem_iff other).2 hother) with rfl | hmem
  · exact .inr ⟨rfl, Int.le_refl _⟩
  · exact List.rel_of_pairwise_cons h.latestFirst hmem

theorem Latest.tied (h : Latest db projectId time row) (h' : Latest db projectId time row') :
    row.Tied row' :=
  (h.asLate row' h'.active).antisymm (h'.asLate row h.active)

/-- While a key is active, the latest rows stay the same. -/
theorem latest_iff_of_le (htime : time ≤ time')
    (hactive : ∃ other, ActiveRow db projectId time' other) :
    Latest db projectId time' row ↔ Latest db projectId time row := by
  constructor
  · intro h
    obtain ⟨hmem, hproject, hexpires⟩ := h.active
    refine ⟨⟨hmem, hproject, by omega⟩, fun other hother => ?_⟩
    -- A row that has expired since was earlier than the one that has not.
    by_cases hstill : time' < other.expiresAt
    · exact h.asLate other ⟨hother.1, hother.2.1, hstill⟩
    · exact asLate_of_lt (by omega)
  · intro h
    -- A row that is still active expires no later than this one.
    obtain ⟨other, hmem, hproject, hexpires⟩ := hactive
    have hle := (h.asLate other ⟨hmem, hproject, by omega⟩).le
    refine ⟨⟨h.active.1, h.active.2.1, by omega⟩, fun other' hother' => ?_⟩
    obtain ⟨hmem', hproject', hexpires'⟩ := hother'
    exact h.asLate other' ⟨hmem', hproject', by omega⟩

/-- Of two rows that are not tied, the later one stands first. -/
theorem Listing.sublist_pair_iff (h : Listing db projectId time rows)
    (hrow : ActiveRow db projectId time row) (hrow' : ActiveRow db projectId time row')
    (htied : ¬row.Tied row') : [row, row'].Sublist rows ↔ row.AsLate row' := by
  have hpairs : ∀ {a b : SigningKeyRow}, [a, b].Sublist rows → a.AsLate b :=
    List.pairwise_iff_forall_sublist.1 h.latestFirst
  constructor
  · exact fun hsublist => hpairs hsublist
  · intro hlate
    obtain ⟨front, rest, rfl⟩ := List.append_of_mem ((h.mem_iff row).2 hrow)
    have hother : ∀ {xs : List SigningKeyRow}, row' ∈ xs → [row'].Sublist xs :=
      fun hmem => List.singleton_sublist.2 hmem
    rcases List.mem_append.1 ((h.mem_iff row').2 hrow') with hmem | hmem
    · -- In front of the row it would be as late as the row, and so tied with it.
      have hbefore : [row', row].Sublist (front ++ row :: rest) :=
        (hother hmem).append (List.singleton_sublist.2 List.mem_cons_self)
      exact absurd (hlate.antisymm (hpairs hbefore)) htied
    · rcases List.mem_cons.1 hmem with rfl | hmem
      · exact absurd ⟨rfl, rfl⟩ htied
      · exact ((hother hmem).cons_cons row).trans (List.sublist_append_right front _)

/-- The store answers with such a list. -/
theorem Database.Conforms.listing_activeKeyRows (hdb : db.Conforms) (projectId : Uuid)
    (time : Int) : Listing db projectId time (db.activeKeyRows projectId time) where
  mem_iff _ := Database.mem_activeKeyRows
  nodup := (hdb.nodup_activeKeyRows projectId time).of_map
  latestFirst :=
    (List.pairwise_mergeSort Database.precedes_trans Database.precedes_total _).imp
      fun h => precedes_eq_true_iff.1 h

end Listing
/-! ## Issuing -/

namespace SessionToken

variable {σ : Type} {keys : SigningKeys σ} {c : TokenConfig} {w : World σ}

section Issuing

variable [Wording]

/-- A token is signed with the key in a row: it names the id of the row, and its signature is made
with the private half that the protector gives back for the row. -/
def SignedWith (keys : SigningKeys σ) (row : SigningKeyRow) (seed : Bytes) (claims : SessionClaims)
    (token : String) : Prop :=
  ∃ signer pair s bytes, row.id = signer.text ∧
    (keys.protector.decrypt row.privateKeyCiphertext s).1 = .ok bytes ∧
    PrivateKey.ofPkcs8 bytes = .ok pair ∧
    token = (sign pair seed (headerFor signer) claims).render

/-- The protector gives back a key pair for a row. -/
def Restorable (keys : SigningKeys σ) (w : World σ) (row : SigningKeyRow) : Prop :=
  ∃ bytes pair, (keys.protector.decrypt row.privateKeyCiphertext w.protector).1 = .ok bytes ∧
    PrivateKey.ofPkcs8 bytes = .ok pair

/-- A token is signed with one of the latest rows. -/
theorem latest_of_issue {seed : Bytes} {subject : SessionSubject} {now : Int} {issued : IssuedToken}
    (hdb : w.tables.Conforms) (h : ((issue keys c seed subject now).run w).1 = .ok issued) :
    ∃ row, Latest w.tables subject.projectId now row ∧ SignedWith keys row seed
      (claimsOf c subject c.accessTokenTtl now) issued.accessToken := by
  obtain ⟨signer, pair, mid, hkey, htoken⟩ := issue_eq_ok (Prod.ext h rfl)
  obtain ⟨row, rest, hrows, hid, s, bytes, hdecrypt, hdecode⟩ :=
    Service.signingKey_eq_ok hdb hkey
  -- The row that signs is the first of the list.
  have hlisting := hdb.listing_activeKeyRows subject.projectId now
  rw [hrows] at hlisting
  exact ⟨row, hlisting.latest_head, signer, pair, s, bytes, hid, hdecrypt, hdecode, htoken⟩

/-- A token is issued if a key is active and the latest rows can be used. -/
theorem issue_of_restorable (seed : Bytes) (subject : SessionSubject) {now : Int}
    (hdb : w.tables.Conforms) (hlife : c.accessTokenTtl < Limit.bits63)
    (hactive : ∃ row, ActiveRow w.tables subject.projectId now row)
    (hrestorable : ∀ row, Latest w.tables subject.projectId now row → Restorable keys w row) :
    ∃ issued, ((issue keys c seed subject now).run w).1 = .ok issued := by
  have hlisting := hdb.listing_activeKeyRows subject.projectId now
  cases hrows : w.tables.activeKeyRows subject.projectId now with
  | nil =>
    obtain ⟨row, hrow⟩ := hactive
    have hmem := (hlisting.mem_iff row).2 hrow
    rw [hrows] at hmem
    exact absurd hmem List.not_mem_nil
  | cons row rest =>
    rw [hrows] at hlisting
    obtain ⟨signer, hid⟩ := hdb.keyTexts row hlisting.latest_head.active.1
    obtain ⟨bytes, pair, hdecrypt, hdecode⟩ := hrestorable row hlisting.latest_head
    obtain ⟨mid, hkey⟩ := Service.signingKey_of_active hdb hrows hid.symm hdecrypt hdecode
    exact ⟨_, issue_of_signingKey subject seed hlife hkey⟩

/-- The failure to find a key for signing is passed on. -/
theorem issue_of_signingKey_error (seed : Bytes) {subject : SessionSubject} {now : Int}
    {e : SessionError} (hlife : c.accessTokenTtl < Limit.bits63)
    (h : ((keys.signingKey subject.projectId now).run w).1 = .error e) :
    ((issue keys c seed subject now).run w).1 = .error e := by
  rw [issue, clockSeconds_of_lt hlife, Call.run_bind_of_ok (Call.run_ofExcept _ _)]
  dsimp only
  rw [Call.run_bind_of_error (Prod.ext h rfl)]

/-- A life that does not fit the clock is refused before any key is looked for. -/
theorem issue_of_endless (keys : SigningKeys σ) (seed : Bytes) (subject : SessionSubject)
    (now : Int) (w : World σ) (h : Limit.bits63 ≤ c.accessTokenTtl) :
    ((issue keys c seed subject now).run w).1 =
      .error (.invalidInput s!"duration {c.accessTokenTtl}s too large") := by
  rw [issue, clockSeconds_of_le h, Call.run_bind_of_error (Call.run_ofExcept _ _)]

/-- Without an active key no token is issued. -/
theorem issue_of_no_activeRow (keys : SigningKeys σ) (c : TokenConfig) (seed : Bytes)
    (subject : SessionSubject) {now : Int} (hdb : w.tables.Conforms)
    (hnone : ∀ row, ¬ActiveRow w.tables subject.projectId now row) :
    ((issue keys c seed subject now).run w).1 =
      if c.accessTokenTtl < Limit.bits63 then
        .error (.noActiveSigningKey (IdFormat.project.format subject.projectId))
      else .error (.invalidInput s!"duration {c.accessTokenTtl}s too large") := by
  have hrows : w.tables.activeKeyRows subject.projectId now = [] :=
    List.eq_nil_iff_forall_not_mem.2 fun row hrow => hnone row (Database.mem_activeKeyRows.1 hrow)
  split
  · rename_i hlife
    exact issue_of_signingKey_error seed hlife (Service.signingKey_of_no_rows keys hdb hrows)
  · rename_i hlife
    exact issue_of_endless keys seed subject now w (Nat.le_of_not_lt hlife)

end Issuing

/-! ## The signing key over time -/

/-- A project has the same keys in two states. -/
def SameKeys (projectId : Uuid) (db db' : Database) : Prop :=
  ∀ row, row.projectId = projectId.text → (row ∈ db'.signingKeys ↔ row ∈ db.signingKeys)

theorem SameKeys.activeRow_iff {projectId : Uuid} {db db' : Database}
    (h : SameKeys projectId db db') {time : Int} {row : SigningKeyRow} :
    ActiveRow db' projectId time row ↔ ActiveRow db projectId time row :=
  ⟨fun hrow => ⟨(h row hrow.2.1).1 hrow.1, hrow.2⟩, fun hrow => ⟨(h row hrow.2.1).2 hrow.1, hrow.2⟩⟩

theorem SameKeys.latest_iff {projectId : Uuid} {db db' : Database} (h : SameKeys projectId db db')
    {time : Int} {row : SigningKeyRow} :
    Latest db' projectId time row ↔ Latest db projectId time row := by
  have hactive : ∀ row, ActiveRow db' projectId time row ↔ ActiveRow db projectId time row :=
    fun row => h.activeRow_iff
  constructor
  · exact fun hrow => ⟨(hactive row).1 hrow.active,
      fun other hother => hrow.asLate other ((hactive other).2 hother)⟩
  · exact fun hrow => ⟨(hactive row).2 hrow.active,
      fun other hother => hrow.asLate other ((hactive other).1 hother)⟩

/-- No operation takes a key away. -/
theorem activeRow_after {db : Database} (hdb : db.Conforms) (command : Store.Command)
    {projectId : Uuid} {time : Int} {row : SigningKeyRow} (h : ActiveRow db projectId time row) :
    ActiveRow (command.after db) projectId time row := by
  refine ⟨?_, h.2⟩
  rcases command.signingKeys_after hdb with hsame | hadded
  · rw [hsame]
    exact h.1
  · rw [hadded]
    exact List.mem_append_left _ h.1

/-- **Keys over time.** The active keys of a project are listed each once, the latest first, and the
list at a later time is an initial segment of it. Tokens are signed with a latest row; all of these
are tied, and as long as the project has the same keys and one of them is active, they are the same
rows at every later time. Without an active key no token is issued: the failure says so, unless the
life of tokens does not fit the clock and is refused before. No operation changes the order of keys
that are there, but for tied ones. The clock is taken to be so far from its end that a life can be
added to it, which nothing checks. -/
theorem keys_over_time [Wording] (hw : Store.Reachable w.tables) (projectId : Uuid)
    {time time' : Int} (htime : time ≤ time') :
    (∀ now, ∃ records, (Store.activeSigningKeys projectId now).run w = (.ok records, w) ∧
      Listing w.tables projectId now (records.map SigningKey.row)) ∧
    (∀ rows rows', Listing w.tables projectId time rows → Listing w.tables projectId time' rows' →
      ∃ front rest, rows = front ++ rest ∧ SameUpToTies rows' front) ∧
    (∀ (keys : SigningKeys σ) (c : TokenConfig) seed (subject : SessionSubject),
      subject.projectId = projectId →
      let outcome := ((issue keys c seed subject time).run w).1
      (∀ issued, outcome = .ok issued → ∃ row, Latest w.tables projectId time row ∧
        SignedWith keys row seed (claimsOf c subject c.accessTokenTtl time) issued.accessToken) ∧
      (c.accessTokenTtl < Limit.bits63 → (∃ row, ActiveRow w.tables projectId time row) →
        (∀ row, Latest w.tables projectId time row → Restorable keys w row) →
        ∃ issued, outcome = .ok issued) ∧
      ((∀ row, ¬ActiveRow w.tables projectId time row) → outcome =
        if c.accessTokenTtl < Limit.bits63 then
          .error (.noActiveSigningKey (IdFormat.project.format projectId))
        else .error (.invalidInput s!"duration {c.accessTokenTtl}s too large"))) ∧
    (∀ row row', Latest w.tables projectId time row → Latest w.tables projectId time row' →
      row.Tied row') ∧
    (∀ w' : World σ, SameKeys projectId w.tables w'.tables →
      (∃ other, ActiveRow w'.tables projectId time' other) →
      ∀ row, Latest w'.tables projectId time' row ↔ Latest w.tables projectId time row) ∧
    (∀ (command : Store.Command) rows rows', Listing w.tables projectId time rows →
      Listing (command.after w.tables) projectId time rows' →
      ∀ a ∈ rows, ∀ b ∈ rows, ¬a.Tied b → ([a, b].Sublist rows' ↔ [a, b].Sublist rows)) := by
  have hdb := hw.conforms
  refine ⟨fun now => ?_, fun rows rows' h h' => h.exists_initial h' htime, ?_,
    fun row row' h h' => h.tied h', fun w' hsame hactive row => ?_,
    fun command rows rows' h h' a ha b hb htied => ?_⟩
  · obtain ⟨records, hrecords, hrows⟩ := hdb.activeSigningKeys projectId now
    refine ⟨records, Store.run_read_of_ok hrecords, ?_⟩
    rw [hrows]
    exact hdb.listing_activeKeyRows projectId now
  · rintro keys c seed subject rfl outcome
    exact ⟨fun issued h => latest_of_issue hdb h,
      fun hlife hactive hrestorable =>
        issue_of_restorable seed subject hdb hlife hactive hrestorable,
      fun hnone => issue_of_no_activeRow keys c seed subject hdb hnone⟩
  · obtain ⟨other, hother⟩ := hactive
    rw [hsame.latest_iff]
    exact latest_iff_of_le htime ⟨other, hsame.activeRow_iff.1 hother⟩
  · have hrow := (h.mem_iff a).1 ha
    have hrow' := (h.mem_iff b).1 hb
    rw [h.sublist_pair_iff hrow hrow' htied, h'.sublist_pair_iff
      (activeRow_after hdb command hrow) (activeRow_after hdb command hrow') htied]

/-! ## A console with two keys -/

/-- A second key of the console, which expires before the first. -/
def sampleSecondKey : SigningKey where
  id := .ofNat 6
  projectId := .ofNat 1
  publicKey := (PrivateKey.ofSeed [3]).publicKey.toSubjectPublicKeyInfo
  privateKeyCiphertext := (PrivateKey.ofSeed [3]).toPkcs8
  expiresAt := 500
  createdAt := 100

/-- The world with both keys. -/
def twoKeysWorld : World Unit :=
  { sampleWorld with
    tables := (Store.Command.createSigningKey sampleSecondKey).after sampleWorld.tables }

theorem reachable_twoKeysWorld : Store.Reachable twoKeysWorld.tables :=
  .step _ reachable_sampleWorld.store

theorem signingKeys_twoKeysWorld :
    twoKeysWorld.tables.signingKeys = [sampleRow, sampleSecondKey.row] := by
  have hfits : (Store.Command.createSigningKey sampleSecondKey).Fits sampleWorld.tables := by
    constructor
    · intro k hk
      rw [signingKeys_sampleWorld, List.mem_singleton] at hk
      rw [hk]
      exact fun hid => absurd (Uuid.text_injective hid) (by decide)
    · rw [tables_sampleWorld]
      exact ⟨_, List.mem_singleton.2 rfl, rfl⟩
  rw [twoKeysWorld, Store.Command.after_of_fits reachable_sampleWorld.store.conforms hfits,
    Store.Command.signingKeys_effect hfits, signingKeys_sampleWorld]
  rfl

/-- The first key stands before the second. -/
theorem listing_twoKeysWorld :
    Listing twoKeysWorld.tables (.ofNat 1) 0 [sampleRow, sampleSecondKey.row] := by
  have hlate : sampleSecondKey.row.expiresAt < sampleRow.expiresAt := by decide
  constructor
  · intro row
    rw [ActiveRow, signingKeys_twoKeysWorld]
    refine ⟨fun hrow => ⟨hrow, ?_⟩, fun hrow => hrow.1⟩
    rcases List.mem_pair.1 hrow with rfl | rfl
    · exact ⟨rfl, by decide⟩
    · exact ⟨rfl, by decide⟩
  · refine List.nodup_cons.2 ⟨fun hmem => ?_, List.nodup_singleton _⟩
    rw [List.mem_singleton] at hmem
    rw [hmem] at hlate
    exact absurd hlate (Int.lt_irrefl _)
  · exact List.pairwise_pair.2 (asLate_of_lt hlate)

theorem not_activeRow_twoKeysWorld (row : SigningKeyRow) :
    ¬ActiveRow twoKeysWorld.tables (.ofNat 1) 1000 row := by
  rintro ⟨hmem, -, hexpires⟩
  rw [signingKeys_twoKeysWorld] at hmem
  rcases List.mem_pair.1 hmem with rfl | rfl
  · exact absurd hexpires (by decide)
  · exact absurd hexpires (by decide)

/-- After the second key has expired the console signs with the first one as before, and when that
has expired too there is none. -/
theorem keys_over_time_twoKeysWorld :
    let keys : SigningKeys Unit := ⟨.clear, 1000⟩
    (∀ rows, Listing twoKeysWorld.tables (.ofNat 1) 600 rows → ∃ front rest,
      [sampleRow, sampleSecondKey.row] = front ++ rest ∧ SameUpToTies rows front) ∧
    (∃ issued row, ((issue keys {} [2] sampleSubject 600).run twoKeysWorld).1 = .ok issued ∧
      SignedWith keys row [2] (claimsOf {} sampleSubject 300 600) issued.accessToken ∧
      row.Tied sampleRow) ∧
    ((issue keys {} [2] sampleSubject 1000).run twoKeysWorld).1 =
      .error (.noActiveSigningKey (IdFormat.project.format (.ofNat 1))) := by
  intro keys
  obtain ⟨-, hinitial, -, -, hsame, -⟩ :=
    keys_over_time reachable_twoKeysWorld (.ofNat 1) (show (0 : Int) ≤ 600 by decide)
  obtain ⟨-, -, hissue, htied, -, -⟩ :=
    keys_over_time reachable_twoKeysWorld (.ofNat 1) (show (600 : Int) ≤ 1000 by decide)
  obtain ⟨-, -, hnone, -, -, -⟩ :=
    keys_over_time reachable_twoKeysWorld (.ofNat 1) (show (1000 : Int) ≤ 1000 by decide)
  have hactive : ActiveRow twoKeysWorld.tables (.ofNat 1) 600 sampleRow := by
    refine ⟨?_, rfl, by decide⟩
    rw [signingKeys_twoKeysWorld]
    exact List.mem_cons_self
  have hlatest : Latest twoKeysWorld.tables (.ofNat 1) 600 sampleRow :=
    (hsame twoKeysWorld (fun _ _ => Iff.rfl) ⟨_, hactive⟩ _).2 listing_twoKeysWorld.latest_head
  have hrestorable : ∀ row, Latest twoKeysWorld.tables (.ofNat 1) 600 row →
      Restorable keys twoKeysWorld row := by
    intro row hrow
    have hmem := hrow.active.1
    rw [signingKeys_twoKeysWorld] at hmem
    rcases List.mem_pair.1 hmem with rfl | rfl
    · exact ⟨_, _, rfl, PrivateKey.ofPkcs8_toPkcs8 _⟩
    · exact absurd hrow.active.2.2 (by decide)
  obtain ⟨hsigned, hissued, -⟩ := hissue keys {} [2] sampleSubject rfl
  obtain ⟨issued, hok⟩ := hissued (by decide) ⟨_, hactive⟩ hrestorable
  obtain ⟨row, hrow, hwith⟩ := hsigned issued hok
  refine ⟨fun rows hrows => hinitial _ rows listing_twoKeysWorld hrows,
    ⟨issued, row, hok, hwith, htied row sampleRow hrow hlatest⟩, ?_⟩
  exact (hnone keys {} [2] sampleSubject rfl).2.2 not_activeRow_twoKeysWorld

/-- Where tokens are to live longer than the clock can count, the lack of an active key is not what
is told. -/
theorem issue_endless_twoKeysWorld :
    Store.Reachable twoKeysWorld.tables ∧
    (∀ row, ¬ActiveRow twoKeysWorld.tables (.ofNat 1) 1000 row) ∧
    ((issue ⟨.clear, 1000⟩ { accessTokenTtl := 2 ^ 63 } [2] sampleSubject 1000).run
        twoKeysWorld).1 ≠ .error (.noActiveSigningKey (IdFormat.project.format (.ofNat 1))) := by
  refine ⟨reachable_twoKeysWorld, not_activeRow_twoKeysWorld, ?_⟩
  rw [issue_of_endless _ _ _ _ _ (by decide)]
  exact fun h => by cases h

end SessionToken
end Gatehouse
