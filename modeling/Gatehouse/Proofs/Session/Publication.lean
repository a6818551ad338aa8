import Gatehouse.Proofs.Session.Service
import Gatehouse.Proofs.Session.Signature

/-!
# Published keys

The keys that are published for a project are those in its active rows, in the same order: each is
named by the id of its row and gives the coordinates of the row's public key. Whoever reads the
coordinates back has the key that verification uses, so the two agree about every signature.
-/

namespace Gatehouse

variable {db : Database} {projectId : Uuid} {now : Int}

/-! ## Keys as they are published -/

/-- The public key whose coordinates a published key gives. -/
def Jwk.publicKey? (k : Jwk) : Option PublicKey := do
  let x ← Base64.urlSafe.decode? k.x
  let y ← Base64.urlSafe.decode? k.y
  let point ← P256.Point.ofOctets? (0x04 :: (x ++ y))
  return ⟨point⟩

/-- A published key has signed the parts of a token: their header names it and the algorithm, and the
signature belongs to the coordinates that it gives. -/
def Jwk.HasSigned (k : Jwk) (t : CompactToken) : Prop :=
  (∃ h : TokenHeader, (CompactToken.partJson? t.header).bind TokenHeader.ofJson? = some h ∧
    h.alg = .es256 ∧ h.kid = some k.kid) ∧
  ∃ key, k.publicKey? = some key ∧ SessionToken.Signed key t

/-- What is published for a row: the external form of its id, and the coordinates of its public key,
which is a point of the curve, in 32 bytes each. -/
structure SigningKeyRow.PublishedAs [Wording] (row : SigningKeyRow) (k : Jwk) : Prop where
  kid : ∃ id : Uuid, row.id = id.text ∧ k.kid = IdFormat.signingKey.format id
  coordinates : ∃ key, PublicKey.ofSubjectPublicKeyInfo row.publicKey = .ok key ∧
    key.point.isValid = true ∧
    k.x = Base64.urlSafe.encode (Bytes.ofNat 32 key.point.x) ∧
    k.y = Base64.urlSafe.encode (Bytes.ofNat 32 key.point.y)
  curve : k.kty = "EC" ∧ k.crv = "P-256"
  use : k.alg = "ES256" ∧ k.keyUse = "sig"

/-- The coordinates of a point of the curve are read back. -/
theorem Jwk.publicKey?_of_coordinates {k : Jwk} {key : PublicKey} (h : key.point.isValid = true)
    (hx : k.x = Base64.urlSafe.encode (Bytes.ofNat 32 key.point.x))
    (hy : k.y = Base64.urlSafe.encode (Bytes.ofNat 32 key.point.y)) : k.publicKey? = some key := by
  have hdecode : ∀ {s : String} {bs : Bytes}, s = Base64.urlSafe.encode bs →
      Base64.urlSafe.decode? s = some bs :=
    (Base64.Dialect.decode?_eq_some_iff Base64.urlSafe_lawful).2
  have hpoint := P256.Point.ofOctets?_uncompressed h
  rw [P256.Point.uncompressed, P256.Point.xBytes, P256.Point.yBytes,
    show P256.coordinateSize = 32 from rfl] at hpoint
  simp only [publicKey?, hdecode hx, hdecode hy, Option.bind_eq_bind, Option.bind_some, hpoint]
  rfl

/-- A row's public key is a point of the curve. -/
def SigningKeyRow.OnCurve [Wording] (row : SigningKeyRow) : Prop :=
  ∃ key, PublicKey.ofSubjectPublicKeyInfo row.publicKey = .ok key ∧ key.point.isValid = true

theorem SigningKeyRow.MadeFrom.onCurve [Wording] {σ : Type} {p : KeyProtector σ}
    {row : SigningKeyRow} {pair : PrivateKey} (h : row.MadeFrom p pair) : row.OnCurve :=
  ⟨_, h.readable, P256.isValid_publicKey pair⟩

theorem SigningKey.publishedAs_toJwk [Wording] {record : SigningKey} {found : SessionPublicKey}
    (hfound : SessionPublicKey.ofRecord record = .ok found) (hcurve : record.row.OnCurve) :
    record.row.PublishedAs found.toJwk := by
  obtain ⟨key, hkey, rfl⟩ := SessionToken.ofRecord_eq_ok_iff.1 hfound
  obtain ⟨key', hkey', hvalid⟩ := hcurve
  obtain rfl := Except.ok.inj (hkey'.symm.trans hkey)
  exact ⟨⟨record.id, rfl, rfl⟩, ⟨key', hkey, hvalid, rfl, rfl⟩, ⟨rfl, rfl⟩, ⟨rfl, rfl⟩⟩

/-! ## Active rows -/

namespace Database

theorem precedes_trans (a b c : SigningKeyRow) (hab : a.precedes b = true)
    (hbc : b.precedes c = true) : a.precedes c = true := by
  simp only [SigningKeyRow.precedes, Bool.or_eq_true, Bool.and_eq_true, decide_eq_true_eq,
    beq_iff_eq] at *
  omega

theorem precedes_total (a b : SigningKeyRow) : (a.precedes b || b.precedes a) = true := by
  simp only [SigningKeyRow.precedes, Bool.or_eq_true, Bool.and_eq_true, decide_eq_true_eq,
    beq_iff_eq]
  omega

/-- The active rows come with the latest expiry first. -/
theorem pairwise_activeKeyRows :
    (db.activeKeyRows projectId now).Pairwise fun a b => b.expiresAt ≤ a.expiresAt := by
  have hsorted : (db.activeKeyRows projectId now).Pairwise fun a b => a.precedes b = true :=
    List.pairwise_mergeSort precedes_trans precedes_total _
  refine hsorted.imp fun {a b} h => ?_
  simp only [SigningKeyRow.precedes, Bool.or_eq_true, Bool.and_eq_true, decide_eq_true_eq,
    beq_iff_eq] at h
  omega

/-- No two active rows have one id. -/
theorem Conforms.nodup_activeKeyRows (hdb : db.Conforms) (projectId : Uuid) (now : Int) :
    ((db.activeKeyRows projectId now).map (·.id)).Nodup := by
  have hperm : (db.activeKeyRows projectId now).Perm
      (db.signingKeys.filter fun k => k.projectId == projectId.text && now < k.expiresAt) :=
    (List.mergeSort_perm _ _).trans (List.reverse_perm _)
  refine (hperm.map _).nodup_iff.2 ?_
  exact hdb.keyIds.sublist (List.filter_sublist.map _)

end Database

/-! ## Rows and published keys -/

variable [Wording]

/-- Keys that are published for rows with different ids have different names. -/
theorem nodup_kids {rows : List SigningKeyRow} {keys : List Jwk}
    (h : List.Forall₂ SigningKeyRow.PublishedAs rows keys) (hids : (rows.map (·.id)).Nodup) :
    (keys.map (·.kid)).Nodup := by
  -- By induction on both lists at once: two equal names would come from two rows with one id.
  induction h with
  | nil => exact List.nodup_nil
  | @cons row k rows keys hk hrest ih =>
    obtain ⟨hnew, hids⟩ := List.nodup_cons.1 hids
    refine List.nodup_cons.2 ⟨fun hmem => hnew ?_, ih hids⟩
    obtain ⟨k', hk', hsame⟩ := List.mem_map.1 hmem
    obtain ⟨row', hrow', hpublished⟩ := Traversal.exists_of_mem_right hrest k' hk'
    obtain ⟨id, hid, hkid⟩ := hk.kid
    obtain ⟨id', hid', hkid'⟩ := hpublished.kid
    obtain rfl : id = id' :=
      IdFormat.signingKey.format_injective (hkid.symm.trans (hsame.symm.trans hkid'))
    exact List.mem_map.2 ⟨row', hrow', hid'.trans hid.symm⟩

/-- The keys that are published for a project at a time, and the rows that they are published for. -/
structure Publication (db : Database) (projectId : Uuid) (now : Int) (rows : List SigningKeyRow)
    (keys : List Jwk) : Prop where
  /-- The rows are those of the project that have not expired, each once. -/
  mem_rows : ∀ row, row ∈ rows ↔
    row ∈ db.signingKeys ∧ row.projectId = projectId.text ∧ now < row.expiresAt
  nodup_rows : rows.Nodup
  latestFirst : rows.Pairwise fun a b => b.expiresAt ≤ a.expiresAt
  /-- Each row has its key, at the same place. -/
  published : List.Forall₂ SigningKeyRow.PublishedAs rows keys
  nodup_kids : (keys.map (·.kid)).Nodup

/-- Where public keys are points of the curve, the active keys of a project are published. -/
theorem exists_publication (hdb : db.Conforms) (hcurve : ∀ row ∈ db.signingKeys, row.OnCurve)
    (projectId : Uuid) (now : Int) :
    ∃ keys, SessionToken.activeKeys projectId now db = .ok keys ∧
      Publication db projectId now (db.activeKeyRows projectId now) (keys.map (·.toJwk)) := by
  obtain ⟨records, hrecords, hrows⟩ := hdb.activeSigningKeys projectId now
  have honCurve : ∀ record ∈ records, record.row.OnCurve := by
    intro record hrecord
    have hactive : record.row ∈ db.activeKeyRows projectId now :=
      hrows ▸ List.mem_map_of_mem hrecord
    exact hcurve _ (Database.mem_activeKeyRows.1 hactive).1
  have hread : ∀ record ∈ records, ∃ found, SessionPublicKey.ofRecord record = .ok found := by
    intro record hrecord
    obtain ⟨key, hkey, -⟩ := honCurve record hrecord
    exact ⟨_, SessionToken.ofRecord_eq_ok_iff.2 ⟨key, hkey, rfl⟩⟩
  obtain ⟨keys, hkeys⟩ := Traversal.exists_mapM_eq_ok hread
  have hpublished : List.Forall₂ SigningKeyRow.PublishedAs (db.activeKeyRows projectId now)
      (keys.map (·.toJwk)) := by
    rw [← hrows, List.forall₂_map_left_iff, List.forall₂_map_right_iff]
    have hall := (List.forall₂_and_left _ _).2 ⟨honCurve, Traversal.mapM_eq_ok_iff.1 hkeys⟩
    exact hall.imp fun record found h => SigningKey.publishedAs_toJwk h.2 h.1
  have hids := hdb.nodup_activeKeyRows projectId now
  refine ⟨keys, by rw [SessionToken.activeKeys, hrecords]; exact hkeys, ?_⟩
  exact {
    mem_rows := fun _ => Database.mem_activeKeyRows
    nodup_rows := hids.of_map
    latestFirst := Database.pairwise_activeKeyRows
    published := hpublished
    nodup_kids := nodup_kids hpublished hids }

/-- A token is signed by an active key that its header names exactly if it is signed by a published
one. -/
theorem Publication.signed_iff {rows : List SigningKeyRow} {keys : List Jwk}
    (h : Publication db projectId now rows keys) (t : CompactToken) :
    (∃ keyId key, SessionToken.Names t.header keyId ∧
      SessionToken.ActiveKey db projectId now keyId key ∧ SessionToken.Signed key t) ↔
      ∃ k ∈ keys, k.HasSigned t := by
  constructor
  · rintro ⟨keyId, key, ⟨header, hheader, halg, hkid⟩,
      ⟨row, hrow, hid, hproject, hexpires, hkey⟩, hsigned⟩
    have hmem := (h.mem_rows row).2 ⟨hrow, hproject, hexpires⟩
    obtain ⟨k, hk, hpublished⟩ := Traversal.exists_of_mem_left h.published row hmem
    obtain ⟨id, hrowId, hname⟩ := hpublished.kid
    obtain ⟨key', hkey', hvalid, hx, hy⟩ := hpublished.coordinates
    -- The row has one id and one public key, so the published key is that of the header.
    obtain rfl : id = keyId := Uuid.text_injective (hrowId.symm.trans hid)
    obtain rfl := Except.ok.inj (hkey'.symm.trans hkey)
    exact ⟨k, hk, ⟨header, hheader, halg, hname ▸ hkid⟩, key',
      Jwk.publicKey?_of_coordinates hvalid hx hy, hsigned⟩
  · rintro ⟨k, hk, ⟨header, hheader, halg, hkid⟩, key, hread, hsigned⟩
    obtain ⟨row, hmem, hpublished⟩ := Traversal.exists_of_mem_right h.published k hk
    obtain ⟨hrow, hproject, hexpires⟩ := (h.mem_rows row).1 hmem
    obtain ⟨id, hid, hname⟩ := hpublished.kid
    obtain ⟨key', hkey, hvalid, hx, hy⟩ := hpublished.coordinates
    rw [Jwk.publicKey?_of_coordinates hvalid hx hy] at hread
    obtain rfl := Option.some.inj hread
    exact ⟨id, key', ⟨header, hheader, halg, hname ▸ hkid⟩,
      ⟨row, hrow, hid, hproject, hexpires, hkey⟩, hsigned⟩

end Gatehouse
