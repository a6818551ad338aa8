import Gatehouse.Proofs.Store.Atomicity

/-!
# Updates of a project

An update replaces the fields that it has a value for and nothing else, and hands out the project as
it can be read afterwards. Updates of one project add up: two of them, one after the other, do what
a single one does that has the values of the second, and those of the first where the second has
none. So do any number of them.
-/

namespace Gatehouse

variable {σ : Type} {db : Database}

namespace ProjectUpdate

/-! ## What an update says -/

/-- A project with the new values in place of the old ones. -/
def applied (u : ProjectUpdate) (p : Project) : Project :=
  { p with
    vaultDomain := u.vaultDomain.getD p.vaultDomain
    logoUrl := u.logoUrl <|> p.logoUrl
    darkModeLogoUrl := u.darkModeLogoUrl <|> p.darkModeLogoUrl }

/-- The update with the values of a second one where that has any. -/
def followedBy (u v : ProjectUpdate) : ProjectUpdate where
  projectId := u.projectId
  vaultDomain := v.vaultDomain <|> u.vaultDomain
  logoUrl := v.logoUrl <|> u.logoUrl
  darkModeLogoUrl := v.darkModeLogoUrl <|> u.darkModeLogoUrl

/-- The update that an update and those after it are together. -/
def followedByAll (u : ProjectUpdate) (vs : List ProjectUpdate) : ProjectUpdate :=
  vs.foldl followedBy u

/-- No field has a value in both updates. -/
structure Apart (u v : ProjectUpdate) : Prop where
  vaultDomain : u.vaultDomain = none ∨ v.vaultDomain = none
  logoUrl : u.logoUrl = none ∨ v.logoUrl = none
  darkModeLogoUrl : u.darkModeLogoUrl = none ∨ v.darkModeLogoUrl = none

theorem orElse_self (u : Option String) : (u <|> u) = u := by
  cases u <;> rfl

theorem orElse_assoc (v u p : Option String) : ((v <|> u) <|> p) = (v <|> (u <|> p)) := by
  cases v <;> rfl

theorem getD_orElse (v u : Option String) (p : String) :
    (v <|> u).getD p = v.getD (u.getD p) := by
  cases v <;> rfl

theorem orElse_comm {u v : Option String} (h : u = none ∨ v = none) : (v <|> u) = (u <|> v) := by
  rcases h with rfl | rfl
  · cases v <;> rfl
  · cases u <;> rfl

theorem followedBy_self (u : ProjectUpdate) : u.followedBy u = u := by
  simp only [followedBy, orElse_self]

theorem followedBy_comm {u v : ProjectUpdate} (hid : v.projectId = u.projectId) (h : u.Apart v) :
    u.followedBy v = v.followedBy u := by
  simp only [followedBy, hid, orElse_comm h.vaultDomain, orElse_comm h.logoUrl,
    orElse_comm h.darkModeLogoUrl]

theorem change_followedBy (u v : ProjectUpdate) (row : ProjectRow) :
    (u.followedBy v).change row = v.change (u.change row) := by
  simp only [change, followedBy, orElse_assoc, getD_orElse]

/-- What is read from a row that has been changed is the project with the new values. -/
theorem record_change (u : ProjectUpdate) (row : ProjectRow) (domains : List String) :
    (u.change row).record domains = (row.record domains).map u.applied := by
  simp only [ProjectRow.record, change]
  cases Database.readId row.id with
  | error e => rfl
  | ok id =>
    cases row.organizationId.mapM Database.readId with
    | error e => rfl
    | ok organizationId =>
      cases row.emailQuotaDaily.mapM (Database.readCount "email quota") with
      | error e => rfl
      | ok quota => rfl

/-! ## What an update makes of a row -/

/-- A row after an update: only the row of the project is changed. -/
def rowAfter (u : ProjectUpdate) (row : ProjectRow) : ProjectRow :=
  if row.id == u.projectId.text then u.change row else row

theorem id_rowAfter (u : ProjectUpdate) (row : ProjectRow) : (u.rowAfter row).id = row.id :=
  (u.harmless_change.ite fun row => row.id == u.projectId.text).id row

theorem rowAfter_of_eq {u : ProjectUpdate} {row : ProjectRow} (h : row.id = u.projectId.text) :
    u.rowAfter row = u.change row :=
  if_pos (beq_iff_eq.2 h)

theorem rowAfter_of_ne {u : ProjectUpdate} {row : ProjectRow} (h : row.id ≠ u.projectId.text) :
    u.rowAfter row = row :=
  if_neg fun heq => h (beq_iff_eq.1 heq)

theorem rowAfter_followedBy {u v : ProjectUpdate} (hid : v.projectId = u.projectId)
    (row : ProjectRow) : (u.followedBy v).rowAfter row = v.rowAfter (u.rowAfter row) := by
  by_cases hrow : row.id = u.projectId.text
  · have hboth : row.id = (u.followedBy v).projectId.text := hrow
    have hsecond : (u.change row).id = v.projectId.text := by
      rw [hid, ← hrow]
      rfl
    rw [rowAfter_of_eq hboth, rowAfter_of_eq hrow, rowAfter_of_eq hsecond, change_followedBy]
  · have hboth : row.id ≠ (u.followedBy v).projectId.text := hrow
    have hsecond : row.id ≠ v.projectId.text := by rwa [hid]
    rw [rowAfter_of_ne hboth, rowAfter_of_ne hrow, rowAfter_of_ne hsecond]

end ProjectUpdate

namespace Store

open Database ProjectUpdate

/-! ## What an update writes -/

namespace Command

theorem projects_effect_updateProject (u : ProjectUpdate) (db : Database) :
    ((updateProject u).effect db).projects = db.projects.map u.rowAfter := rfl

/-- The project that is found after an update is the one that was found before, with the new values
if it is the one to be updated. -/
theorem project?_effect_updateProject (u : ProjectUpdate) (id : Uuid) (db : Database) :
    ((updateProject u).effect db).project? id = (db.project? id).map u.rowAfter := by
  -- The update keeps the ids, so the same row is found.
  have hsame : ((·.id == id.text) ∘ u.rowAfter : ProjectRow → Bool) = (·.id == id.text) := by
    funext row
    exact congrArg (· == id.text) (u.id_rowAfter row)
  rw [project?, projects_effect_updateProject, List.find?_map, hsame]
  rfl

/-- After an update the project is read with the new values. -/
theorem getProject_effect_updateProject (u : ProjectUpdate) (db : Database) :
    ((updateProject u).effect db).getProject u.projectId =
      (db.getProject u.projectId).map u.applied := by
  rw [Database.getProject, Database.getProject, project?_effect_updateProject]
  change (db.require [.projects] >>= fun _ => _) = _
  -- Whether tables are missing, and which domains are trusted, is the same before and after.
  cases db.require [.projects] with
  | error e => rfl
  | ok _ =>
    cases hrow : db.project? u.projectId with
    | none => rfl
    | some row =>
      have hid := (mem_of_project?_eq_some hrow).2
      rw [Option.map_some, rowAfter_of_eq hid]
      change (db.require [.trustedDomains] >>= fun _ => _) = _
      cases db.require [.trustedDomains] with
      | error e => rfl
      | ok _ => exact u.record_change row (db.domainsOf u.projectId)

/-- After an update every other project is read as before. -/
theorem getProject_effect_updateProject_of_ne {u : ProjectUpdate} {id : Uuid}
    (h : id ≠ u.projectId) (db : Database) :
    ((updateProject u).effect db).getProject id = db.getProject id := by
  have hfound : ((updateProject u).effect db).project? id = db.project? id := by
    rw [project?_effect_updateProject]
    cases hrow : db.project? id with
    | none => rfl
    | some row =>
      have hid := (mem_of_project?_eq_some hrow).2
      have hother : row.id ≠ u.projectId.text := by
        rw [hid]
        exact fun heq => h (Uuid.text_injective heq)
      rw [Option.map_some, rowAfter_of_ne hother]
  rw [Database.getProject, hfound]
  rfl

theorem effect_updateProject_effect {u v : ProjectUpdate} (hid : v.projectId = u.projectId)
    (db : Database) : (updateProject v).effect ((updateProject u).effect db) =
      (updateProject (u.followedBy v)).effect db := by
  have hrows : (db.projects.map u.rowAfter).map v.rowAfter =
      db.projects.map (u.followedBy v).rowAfter := by
    rw [List.map_map]
    apply List.map_congr_left
    intro row _
    rw [Function.comp_apply, rowAfter_followedBy hid]
  show { db with projects := (db.projects.map u.rowAfter).map v.rowAfter } = _
  rw [hrows]
  rfl

/-- Whether a project is there does not depend on updates. -/
theorem fits_updateProject_effect {u v : ProjectUpdate} (hid : v.projectId = u.projectId) :
    (updateProject v).Fits ((updateProject u).effect db) ↔ (updateProject u).Fits db := by
  have hids : (db.projects.map u.rowAfter).map (·.id) = db.projects.map (·.id) :=
    map_map_of_eq u.id_rowAfter db.projects
  have hiff : ∀ rows : List ProjectRow, (∃ p ∈ rows, p.id = u.projectId.text) ↔
      u.projectId.text ∈ rows.map (·.id) := fun _ => List.mem_map.symm
  rw [Fits, Fits, hid, projects_effect_updateProject, hiff, hiff, hids]

/-- Two updates of a project are one. -/
theorem after_updateProject_after {u v : ProjectUpdate} (hid : v.projectId = u.projectId)
    (hdb : db.Conforms) : (updateProject v).after ((updateProject u).after db) =
      (updateProject (u.followedBy v)).after db := by
  by_cases hfits : (updateProject u).Fits db
  · have hboth : (updateProject (u.followedBy v)).Fits db := hfits
    have hconforms : ((updateProject u).effect db).Conforms := by
      rw [← after_of_fits hdb hfits]
      exact conforms_after _ hdb
    rw [after_of_fits hdb hfits, after_of_fits hdb hboth,
      after_of_fits hconforms ((fits_updateProject_effect hid).2 hfits),
      effect_updateProject_effect hid]
  · have hother : ¬ (updateProject v).Fits db := by
      rw [Fits, hid]
      exact hfits
    have hboth : ¬ (updateProject (u.followedBy v)).Fits db := hfits
    rw [after_of_not_fits hdb hfits, after_of_not_fits hdb hother, after_of_not_fits hdb hboth]

/-- After an update, whether it took place or not, the project is read with the new values if it is
there. -/
theorem getProject_after_updateProject (u : ProjectUpdate) (hdb : db.Conforms) :
    ((updateProject u).after db).getProject u.projectId =
      (db.getProject u.projectId).map u.applied := by
  by_cases hfits : (updateProject u).Fits db
  · rw [after_of_fits hdb hfits, getProject_effect_updateProject]
  · have hnone : db.project? u.projectId = none :=
      project?_eq_none_iff.2 fun row hrow hid => hfits ⟨row, hrow, hid⟩
    rw [after_of_not_fits hdb hfits, hdb.getProject_of_none hnone]
    rfl

end Command

/-! ## What an update answers -/

theorem run_updateProject (u : ProjectUpdate) (w : World σ) :
    ((Store.updateProject u).run w).1 =
        (Statement.all u.statements w.tables >>= fun db => db.getProject u.projectId) ∧
      ((Store.updateProject u).run w).2.tables = (Command.updateProject u).after w.tables := by
  rw [Command.after_eq]
  exact run_runAll_bind _ ((Store.reads_read _).emit_bind _) w

/-- An update hands out the project as it can be read afterwards, or tells why it cannot. -/
theorem outcome_updateProject (u : ProjectUpdate) {w : World σ} (hdb : w.tables.Conforms) :
    ((Store.updateProject u).run w).1 =
      ((Store.updateProject u).run w).2.tables.getProject u.projectId := by
  obtain ⟨houtcome, htables⟩ := run_updateProject u w
  rw [houtcome, htables]
  by_cases hfits : (Command.updateProject u).Fits w.tables
  · have hall : Statement.all u.statements w.tables =
        .ok ((Command.updateProject u).effect w.tables) :=
      ((Command.updateProject u).statements_eq_ok_iff hdb).2 ⟨hfits, rfl⟩
    rw [hall, Command.after_of_fits hdb hfits]
    rfl
  · -- The first statement already fails, with what a reader of the project is told.
    have hnone : w.tables.project? u.projectId = none :=
      project?_eq_none_iff.2 fun row hrow hid => hfits ⟨row, hrow, hid⟩
    have habsent : w.tables.hasProject u.projectId.text = false := by
      rw [Bool.eq_false_iff, ne_eq, hasProject_eq_true_iff]
      exact hfits
    have hexists : u.exists? w.tables = .error (.notFound s!"project {u.projectId}") := by
      rw [ProjectUpdate.exists?, hdb.require_bind, habsent]
      rfl
    rw [Command.after_of_not_fits hdb hfits, hdb.getProject_of_none hnone,
      ProjectUpdate.statements_eq, Statement.all_cons, hexists]
    rfl

/-- A project that is there is handed out with the new values. -/
theorem outcome_updateProject_of_mem {u : ProjectUpdate} {w : World σ} (hdb : w.tables.Conforms)
    {row : ProjectRow} (hrow : row ∈ w.tables.projects) (hid : row.id = u.projectId.text) :
    ∃ project, w.tables.getProject u.projectId = .ok project ∧
      ((Store.updateProject u).run w).1 = .ok (u.applied project) := by
  obtain ⟨_, _, -, -, hread⟩ := hdb.getProject_of_some (hdb.project?_of_mem hrow hid)
  refine ⟨_, hread, ?_⟩
  rw [outcome_updateProject u hdb, (run_updateProject u w).2,
    Command.getProject_after_updateProject u hdb, hread]
  rfl

theorem outcome_updateProject_of_not_mem {u : ProjectUpdate} {w : World σ}
    (hdb : w.tables.Conforms) (h : ∀ row ∈ w.tables.projects, row.id ≠ u.projectId.text) :
    ((Store.updateProject u).run w).1 = .error (.notFound s!"project {u.projectId}") := by
  rw [outcome_updateProject u hdb, (run_updateProject u w).2,
    Command.getProject_after_updateProject u hdb,
    hdb.getProject_of_none (project?_eq_none_iff.2 h)]
  rfl

theorem conforms_updateProject (u : ProjectUpdate) {w : World σ} (hdb : w.tables.Conforms) :
    ((Store.updateProject u).run w).2.tables.Conforms := by
  rw [(run_updateProject u w).2]
  exact (Command.updateProject u).conforms_after hdb

/-! ## Updates one after the other -/

/-- What is seen of an update depends on nothing but the tables. -/
theorem seen_updateProject_of_tables (u : ProjectUpdate) {w w' : World σ}
    (h : w'.tables = w.tables) :
    (Store.updateProject u).seen w' = (Store.updateProject u).seen w := by
  rw [Call.seen, Call.seen, (run_updateProject u w').1, (run_updateProject u w').2,
    (run_updateProject u w).1, (run_updateProject u w).2, h]

/-- What is seen of the second of two updates is what the two together show. -/
theorem seen_updateProject_updateProject {u v : ProjectUpdate} (hid : v.projectId = u.projectId)
    {w : World σ} (hdb : w.tables.Conforms) :
    (Store.updateProject v).seen ((Store.updateProject u).run w).2 =
      (Store.updateProject (u.followedBy v)).seen w := by
  have htables : ((Store.updateProject v).run ((Store.updateProject u).run w).2).2.tables =
      ((Store.updateProject (u.followedBy v)).run w).2.tables := by
    rw [(run_updateProject v _).2, (run_updateProject u w).2, (run_updateProject _ w).2]
    exact Command.after_updateProject_after hid hdb
  refine Prod.ext ?_ htables
  show ((Store.updateProject v).run _).1 = ((Store.updateProject (u.followedBy v)).run w).1
  rw [outcome_updateProject v (conforms_updateProject u hdb), outcome_updateProject _ hdb, hid]
  exact congrArg (Database.getProject u.projectId) htables

/-- The world after updates one after the other. -/
def runUpdates (us : List ProjectUpdate) (w : World σ) : World σ :=
  us.foldl (fun w u => ((Store.updateProject u).run w).2) w

theorem tables_runUpdates (us : List ProjectUpdate) (w : World σ) :
    (runUpdates us w).tables =
      us.foldl (fun db u => (Command.updateProject u).after db) w.tables := by
  induction us generalizing w with
  | nil => rfl
  | cons u us ih =>
    show (runUpdates us ((Store.updateProject u).run w).2).tables = _
    rw [ih, (run_updateProject u w).2, List.foldl_cons]

/-- However many updates of a project follow each other, they leave what they do together. -/
theorem tables_runUpdates_cons {u : ProjectUpdate} {us : List ProjectUpdate}
    (hus : ∀ v ∈ us, v.projectId = u.projectId) {w : World σ} (hdb : w.tables.Conforms) :
    (runUpdates (u :: us) w).tables =
      ((Store.updateProject (u.followedByAll us)).run w).2.tables := by
  rw [tables_runUpdates, List.foldl_cons, (run_updateProject _ w).2]
  -- The first of the others is taken into the update before them.
  induction us generalizing u with
  | nil => rfl
  | cons v us ih =>
    rw [List.forall_mem_cons] at hus
    rw [List.foldl_cons, Command.after_updateProject_after hus.1 hdb]
    exact ih hus.2

theorem projectId_followedByAll (u : ProjectUpdate) (us : List ProjectUpdate) :
    (u.followedByAll us).projectId = u.projectId := by
  induction us generalizing u with
  | nil => rfl
  | cons v us ih => exact ih (u.followedBy v)

/-- The last of any number of updates shows what all of them show together. -/
theorem seen_runUpdates {u v : ProjectUpdate} {us : List ProjectUpdate}
    (hus : ∀ v ∈ us, v.projectId = u.projectId) (hid : v.projectId = u.projectId) {w : World σ}
    (hdb : w.tables.Conforms) :
    (Store.updateProject v).seen (runUpdates (u :: us) w) =
      (Store.updateProject (u.followedByAll (us ++ [v]))).seen w := by
  have hall : u.followedByAll (us ++ [v]) = (u.followedByAll us).followedBy v := by
    rw [followedByAll, List.foldl_append]
    rfl
  rw [hall, ← seen_updateProject_updateProject
    (hid.trans (projectId_followedByAll u us).symm) hdb]
  exact seen_updateProject_of_tables v (tables_runUpdates_cons hus hdb)

end Store
end Gatehouse
