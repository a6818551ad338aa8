import Gatehouse.Proofs.EmailQuota
import Gatehouse.Proofs.Session.Tokens

/-!
# What lasts

Signing keys are only ever added, and so are projects, each with the organization that manages it.
Verification asks for nothing else: for a key that is there, and for the project of an organization.
So a token that is verified once is verified in every later state, at the same time and with the same
identity, and no session gets to another tenant.
-/

namespace Gatehouse

variable {db db' : Database}

/-! ## Projects and who manages them -/

/-- A project and the organization that manages it. -/
def ProjectRow.management (p : ProjectRow) : String × Option String :=
  (p.id, p.organizationId)

/-- The projects with the organizations that manage them, in the order in which they were made. -/
def Database.managements (db : Database) : List (String × Option String) :=
  db.projects.map ProjectRow.management

theorem Statement.Harmless.management {change : ProjectRow → ProjectRow} (h : Harmless change)
    (p : ProjectRow) : (change p).management = p.management := by
  rw [ProjectRow.management, h.id, h.organizationId]
  rfl

namespace Store.Command

/-- An operation that takes place may add a project. Those that there are keep whatever no harmless
change touches. -/
theorem map_projects_effect {β : Type} {f : ProjectRow → β}
    (hf : ∀ change, Statement.Harmless change → ∀ p, f (change p) = f p) {c : Command}
    (h : c.Fits db) : db.projects.map f <+: (c.effect db).projects.map f := by
  cases c with
  | createConsoleProject p =>
    -- The console is made in an empty store only.
    obtain ⟨rfl, -⟩ := h
    exact List.nil_prefix
  | createProject p =>
    have hadded : (effect (createProject p) db).projects.map f =
        db.projects.map f ++ [f p.projectRow] := List.map_append
    rw [hadded]
    exact List.prefix_append _ _
  | updateProject u =>
    have hsame : (effect (updateProject u) db).projects.map f = db.projects.map f :=
      Database.map_map_of_eq (hf _ (u.harmless_change.ite _)) db.projects
    rw [hsame]
  | _ => exact List.prefix_rfl

theorem map_projects_after {β : Type} {f : ProjectRow → β}
    (hf : ∀ change, Statement.Harmless change → ∀ p, f (change p) = f p) (c : Command)
    (hdb : db.Conforms) : db.projects.map f <+: (c.after db).projects.map f := by
  rcases c.after_cases hdb with hsame | ⟨hfits, heffect⟩
  · rw [hsame]
  · rw [heffect]
    exact map_projects_effect hf hfits

/-- Projects keep who manages them. -/
theorem managements_after (c : Command) (hdb : db.Conforms) :
    db.managements <+: (c.after db).managements :=
  c.map_projects_after (fun _ h => h.management) hdb

end Store.Command

namespace Service

variable {σ : Type} {p : KeyProtector σ}

theorem Acts.managements (h : Acts p db db') (hdb : db.Conforms) :
    db.managements <+: db'.managements := by
  rcases h with rfl | ⟨c, rfl, -⟩
  · exact List.prefix_rfl
  · exact c.managements_after hdb

/-- Projects stay, and so does who manages them. -/
theorem Leads.managements [Wording] (h : Leads p db db') (hdb : Store.Reachable db) :
    db.managements <+: db'.managements := by
  induction h with
  | refl => exact List.prefix_rfl
  | step op hleads ih =>
    exact ih.trans ((acts_after op _).managements (hleads.reachable hdb).conforms)

/-- What the daily quota does to the tables is to count an email, or nothing if the project cannot be
read. -/
theorem Leads.recordSend [Wording] {w : World σ} (h : Leads p db w.tables) (default : Nat)
    (projectId : Uuid) (now : Int) :
    Leads p db ((EmailQuota.recordSend default projectId now).run w).2.tables := by
  have hread := (EmailQuota.reads_quotaOf default projectId w).2
  rcases hrun : (EmailQuota.quotaOf default projectId).run w with ⟨e | quota, mid⟩
  · rw [hrun] at hread
    rw [EmailQuota.recordSend, Call.run_bind_of_error hrun]
    exact hread ▸ h
  · rw [hrun] at hread
    have hmid : Leads p db mid.tables := hread ▸ h
    -- What follows the count changes nothing.
    have hcount : ((EmailQuota.count quota projectId now).run mid).2.tables =
        ((Operation.countEmail projectId (EmailQuota.dayOf now)).after p mid).tables :=
      Call.tables_run_bind (fun usage => (EmailQuota.reads_accept quota projectId usage).keeps) mid
    rw [EmailQuota.recordSend, Call.run_bind_of_ok hrun, hcount]
    exact .step _ hmid

end Service

namespace SessionToken

variable {σ : Type} {c : TokenConfig} {projectId : Uuid} {now : Int} {token : String}

/-! ## What verification asks for -/

/-- An organization manages the project that the store gives for it. -/
theorem backedProject_eq_ok_iff (hdb : db.Conforms) {organizationId projectId : Uuid} :
    db.backedProject organizationId = .ok projectId ↔ Backs db organizationId projectId := by
  constructor
  · intro h
    by_cases hmanaged : ∃ row ∈ db.projects, row.organizationId = some organizationId.text
    · obtain ⟨row, hrow, horganization⟩ := hmanaged
      obtain ⟨id, hid⟩ := hdb.projectTexts row hrow
      rw [hdb.backedProject_of_mem hrow horganization hid.symm] at h
      obtain rfl := Except.ok.inj h
      exact ⟨row, hrow, horganization, hid.symm⟩
    · rw [hdb.backedProject_of_not_mem fun row hrow horganization =>
        hmanaged ⟨row, hrow, horganization⟩] at h
      cases h
  · rintro ⟨row, hrow, horganization, hid⟩
    exact hdb.backedProject_of_mem hrow horganization hid

theorem backs_iff_mem_managements {organizationId projectId : Uuid} :
    Backs db organizationId projectId ↔
      (projectId.text, some organizationId.text) ∈ db.managements := by
  rw [Database.managements, List.mem_map]
  refine exists_congr fun row => and_congr_right fun _ => ?_
  rw [ProjectRow.management, Prod.mk.injEq]
  exact and_comm

theorem Backs.later {organizationId projectId : Uuid} (h : Backs db organizationId projectId)
    (hgrows : db.managements <+: db'.managements) : Backs db' organizationId projectId :=
  backs_iff_mem_managements.2 (hgrows.mem (backs_iff_mem_managements.1 h))

theorem ActiveKey.later [Wording] {keyId : Uuid} {key : PublicKey}
    (h : ActiveKey db projectId now keyId key) (hgrows : db.signingKeys <+: db'.signingKeys) :
    ActiveKey db' projectId now keyId key := by
  obtain ⟨row, hrow, hrest⟩ := h
  exact ⟨row, hgrows.mem hrow, hrest⟩

/-- Keys that are added take nothing from the tokens that are accepted without them. -/
theorem Accepted.later [Wording] {userId sessionId organizationId : Uuid}
    (h : Accepted c db projectId now token userId sessionId organizationId)
    (hgrows : db.signingKeys <+: db'.signingKeys) :
    Accepted c db' projectId now token userId sessionId organizationId := by
  obtain ⟨t, claims, htoken, haccepts⟩ := h
  obtain ⟨keyId, key, hnames, hactive, hsigned⟩ := haccepts.signed
  exact ⟨t, claims, htoken,
    { haccepts with signed := ⟨keyId, key, hnames, hactive.later hgrows, hsigned⟩ }⟩

/-- A leeway that does not fit the clock lets no token through. -/
theorem leeway_of_verdict [Wording] {identity : SessionIdentity}
    (h : verdict c projectId token now db = .ok identity) : c.leeway < Limit.bits63 := by
  -- Every step before the one that reads the leeway has succeeded, and so has that one.
  obtain ⟨⟨kid, keyId⟩, -, h⟩ := Traversal.bind_eq_ok_iff.1 h
  obtain ⟨keys, -, h⟩ := Traversal.bind_eq_ok_iff.1 h
  obtain ⟨key, -, h⟩ := Traversal.bind_eq_ok_iff.1 h
  obtain ⟨claims, -, h⟩ := Traversal.bind_eq_ok_iff.1 h
  obtain ⟨leeway, hleeway, -⟩ := Traversal.bind_eq_ok_iff.1 h
  by_contra hlarge
  rw [clockSeconds, if_neg hlarge] at hleeway
  cases hleeway

/-! ## Sessions in later states -/

/-- **Sessions last.** A token that is verified in a reachable state is verified in every later one,
at the same time and with the same identity, whatever the service has done in between and whether it
has succeeded or not. The project that an organization manages is the same from then on, so that no
session is moved to another tenant. Nothing is asked of the key protector, which may encrypt as its
state says, and so in another way at each operation. -/
theorem verified_stays [Wording] {p : KeyProtector σ} {w w' : World σ}
    (hw : Service.Reachable p w.tables) (hleads : Service.Leads p w.tables w'.tables) :
    (∀ (c : TokenConfig) (projectId : Uuid) (token : String) (now : Int)
      (identity : SessionIdentity),
      ((verify c projectId token now).run w).1 = .ok identity →
        ((verify c projectId token now).run w').1 = .ok identity) ∧
    ∀ organizationId projectId : Uuid,
      ((Store.backedProject organizationId).run w).1 = .ok projectId →
        ((Store.backedProject organizationId).run w').1 = .ok projectId := by
  have hw' : Service.Reachable p w'.tables := Service.Leads.trans hw hleads
  have hdb := hw.store.conforms
  have hdb' := hw'.store.conforms
  have hmanagements := hleads.managements hw.store
  have hkeys : w.tables.signingKeys <+: w'.tables.signingKeys := by
    obtain ⟨rows, hrows, -⟩ := hleads.signingKeys hw.store
    rw [hrows]
    exact List.prefix_append _ _
  constructor
  · intro c projectId token now identity h
    rw [(reads_verify c projectId token now w).1] at h
    have hleeway := leeway_of_verdict h
    obtain ⟨haccepted, hbacks⟩ :=
      (verdict_eq_ok_iff hdb (hw.keysReadable projectId now) hleeway).1 h
    rw [(reads_verify c projectId token now w').1]
    exact (verdict_eq_ok_iff hdb' (hw'.keysReadable projectId now) hleeway).2
      ⟨haccepted.later hkeys, hbacks.later hmanagements⟩
  · intro organizationId projectId h
    have hbacks := (backedProject_eq_ok_iff hdb).1 ((Store.reads_read _ w).1.symm.trans h)
    exact (Store.reads_read _ w').1.trans
      ((backedProject_eq_ok_iff hdb').2 (hbacks.later hmanagements))

/-- The world after a second key of the console has been made, which lives longer than the first. -/
def rotatedWorld : World Unit :=
  (Service.Operation.createSigningKey 5000 ⟨.ofNat 6, [3]⟩ (.ofNat 1) 200).after .clear sampleWorld

/-- The token of the console's owner is verified after the rotation as before it. -/
theorem verified_stays_rotated :
    ((verify {} (.ofNat 1) sampleToken.render 299).run rotatedWorld).1 =
      .ok ⟨.ofNat 3, .ofNat 4, .ofNat 2, .ofNat 1⟩ := by
  have hbefore : ((verify {} (.ofNat 1) sampleToken.render 299).run sampleWorld).1 =
      .ok ⟨.ofNat 3, .ofNat 4, .ofNat 2, .ofNat 1⟩ :=
    (reads_verify _ _ _ _ _).1.trans verdict_sampleToken
  exact (verified_stays reachable_sampleWorld (.step _ .refl)).1 _ _ _ _ _ hbefore

end SessionToken

end Gatehouse
