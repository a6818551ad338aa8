import Gatehouse.Command.Operator
import Gatehouse.Proofs.Command.Arguments
import Gatehouse.Proofs.Command.Startup
import Gatehouse.Proofs.Store.Update

/-!
# Updates from the command line

The operator's program passes an update on to the store, and takes an empty value for none. Whether
an option is left out or given an empty value makes no difference to it, so all that holds of
updates that leave fields alone holds of the program too.
-/

namespace Gatehouse

variable {σ : Type}

/-- A call whose failure is put in words and whose value is put in a form. -/
theorem Call.seen_explain_bind_pure {ε α β : Type} (context : String) (message : ε → String)
    (c : Call σ ε α) (g : α → β) (w : World σ) :
    (c.explain context message >>= fun a => pure (g a)).seen w =
      (((c.seen w).1.map g).mapError fun e => .because context (message e), (c.seen w).2) := by
  have hexplained : (c.explain context message).run w =
      ((c.run w).1.mapError fun e => .because context (message e), (c.run w).2) := run_mapError _ c w
  rw [seen, seen, run_bind, hexplained]
  cases (c.run w).1 <;> rfl

namespace Operation

open Command (Form)

/-! ## Options without a value -/

/-- The options that `update-project` takes for the fields of a project. -/
def fieldOptions : List String :=
  ["vault-domain", "logo-url", "dark-mode-logo-url"]

theorem takes_fieldOption {name : String} (h : name ∈ fieldOptions) :
    updateProjectForm.Takes name := by
  have hplain : ∀ n ∈ fieldOptions, n ≠ "" ∧ '=' ∉ n.toList ∧
      updateProjectForm.flags.contains n = false ∧
      updateProjectForm.options.any (·.name == n) = true := by
    decide +kernel
  obtain ⟨hnonempty, hequals, hflag, hoption⟩ := hplain name h
  exact ⟨hnonempty, hequals, hflag, hoption⟩

theorem presets_fieldOption {name : String} (h : name ∈ fieldOptions) :
    updateProjectForm.Presets name "" := by
  have hblank : ∀ n ∈ fieldOptions, ∀ o ∈ updateProjectForm.options, o.name = n →
      o.source? = none ∧ o.default? = some "" := by
    decide +kernel
  exact ⟨fun o ho hname => (hblank name h o ho hname).1, fun o ho hname => (hblank name h o ho hname).2⟩

/-- Where an option for a field is given an empty value, it may as well be left out. -/
theorem ofArguments?_empty {name : String} (hname : name ∈ fieldOptions) {args : List String}
    (hargs : Form.Spells name "" args) {before after : List String}
    (hroom : updateProjectForm.RoomFor name before after) (env : Command.Variables) :
    ofArguments? env ("update-project" :: (before ++ args ++ after)) =
      ofArguments? env ("update-project" :: (before ++ after)) := by
  have hread :=
    (presets_fieldOption hname).read?_eq (takes_fieldOption hname) hargs hroom env
  simp only [ofArguments?, hread]

/-! ## The program -/

/-- The value that a flag gives a field. -/
def fieldOf (flag : String) : Option String :=
  if flag = "" then none else some flag

/-- What the program prints of a project that it has updated. -/
def updated (project : Project) : String :=
  "Project " ++ IdFormat.project.format project.id ++ " updated:\n" ++
    "  Vault domain:       " ++ project.vaultDomain ++ "\n" ++
    "  Logo URL:           " ++ project.logoUrl.getD "" ++ "\n" ++
    "  Dark mode logo URL: " ++ project.darkModeLogoUrl.getD "" ++ "\n"

/-- Opening the store leaves the tables as they are. -/
theorem run_openStore (host : Host σ) {directory : String} (hopen : host.obstacle directory = none)
    {w : World σ} (hw : w.tables.missing = []) :
    ∃ w', (openStore host directory).run w = (.ok (), w') ∧ w'.tables = w.tables := by
  obtain ⟨hopened, htables⟩ := (Store.readsOn_openIn directory none).mapError
    (fun e => Failure.because ("Failed to open database in " ++ directory) e.message) w hw
  refine ⟨((openStore host directory).run w).2, ?_, ?_⟩
  · rw [openStore, Command.openStore, hopen]
    exact Prod.ext hopened rfl
  · rw [openStore, Command.openStore, hopen]
    exact htables

/-- The program does what the store does with the fields that are not empty. -/
theorem seen_updateProject [Wording] (host : Host σ) {directory : String}
    (hopen : host.obstacle directory = none) (id : Uuid)
    (vaultDomain logoUrl darkModeLogoUrl : String) {w : World σ} (hw : w.tables.missing = []) :
    let seen := (Store.updateProject
      ⟨id, fieldOf vaultDomain, fieldOf logoUrl, fieldOf darkModeLogoUrl⟩).seen w
    ((Operation.updateProject directory (IdFormat.project.format id) vaultDomain logoUrl
        darkModeLogoUrl).run host).seen w =
      ((seen.1.map updated).mapError fun e => .because "Update project failed" e.message,
        seen.2) := by
  intro seen
  -- Before the update the program reads the id and opens the store, and neither changes a table.
  have hid : (readId "Invalid project id" .project (IdFormat.project.format id)).run w =
      (.ok id, w) := by
    rw [readId, Call.explain, Call.run_mapError, IdFormat.parse_format]
    rfl
  obtain ⟨w', hrun, hsame⟩ := run_openStore host hopen hw
  have hseen : (Store.updateProject
      ⟨id, fieldOf vaultDomain, fieldOf logoUrl, fieldOf darkModeLogoUrl⟩).seen w' = seen :=
    Store.seen_updateProject_of_tables _ hsame
  rw [Operation.run, runUpdateProject, Call.seen, Call.run_bind_of_ok hid, Call.run_bind_of_ok hrun,
    ← hseen]
  exact Call.seen_explain_bind_pure _ _ _ updated w'

end Operation

namespace ProjectUpdate

open Operation (fieldOptions fieldOf updated)
open Command (Form)
open Store (Reachable updateProject runUpdates)

/-- **Updates compose.** On reachable tables, an update of a project that is there hands out the
project as it can be read afterwards: the old one with the values of the update, where it has any.
One row is changed and nothing else, so all other projects are read as before. An update of a
project that is not there is refused and changes nothing. Of one project, any number of updates show
and leave what a single one does that has their values, the later ones first; so two of them that
share no field may change places, and one that is repeated changes nothing further. The operator's
program does the same with the values that are not empty, and where one is empty the option for it
may as well be left out. -/
theorem updates_compose [Wording] {w : World σ} (hw : Reachable w.tables) (u : ProjectUpdate) :
    ((updateProject u).seen w).1 =
        ((Store.getProject u.projectId).seen ((updateProject u).run w).2).1 ∧
      (∀ row ∈ w.tables.projects, row.id = u.projectId.text →
        (∃ project, w.tables.getProject u.projectId = .ok project ∧
          ((updateProject u).seen w).1 = .ok (u.applied project)) ∧
        (∀ id ≠ u.projectId,
          ((updateProject u).seen w).2.getProject id = w.tables.getProject id) ∧
        ∃ rows, ReplacesOne w.tables.projects rows row (u.change row) ∧
          ((updateProject u).seen w).2 = { w.tables with projects := rows }) ∧
      ((∀ row ∈ w.tables.projects, row.id ≠ u.projectId.text) →
        (updateProject u).seen w = (.error (.notFound s!"project {u.projectId}"), w.tables)) ∧
      (∀ v, v.projectId = u.projectId →
        (updateProject v).seen ((updateProject u).run w).2 =
          (updateProject (u.followedBy v)).seen w) ∧
      (∀ us v, (∀ u' ∈ us, u'.projectId = u.projectId) → v.projectId = u.projectId →
        (updateProject v).seen (runUpdates (u :: us) w) =
          (updateProject (u.followedByAll (us ++ [v]))).seen w) ∧
      (∀ v, v.projectId = u.projectId → u.Apart v →
        (updateProject v).seen ((updateProject u).run w).2 =
          (updateProject u).seen ((updateProject v).run w).2) ∧
      (updateProject u).seen ((updateProject u).run w).2 = (updateProject u).seen w ∧
      (∀ (host : Host σ) directory vaultDomain logoUrl darkModeLogoUrl,
        host.obstacle directory = none →
        let seen := (updateProject
          ⟨u.projectId, fieldOf vaultDomain, fieldOf logoUrl, fieldOf darkModeLogoUrl⟩).seen w
        ((Operation.updateProject directory (IdFormat.project.format u.projectId) vaultDomain
            logoUrl darkModeLogoUrl).run host).seen w =
          ((seen.1.map updated).mapError fun e => .because "Update project failed" e.message,
            seen.2)) ∧
      ∀ env name args before after, name ∈ fieldOptions → Form.Spells name "" args →
        Operation.updateProjectForm.RoomFor name before after →
        Operation.ofArguments? env ("update-project" :: (before ++ args ++ after)) =
          Operation.ofArguments? env ("update-project" :: (before ++ after)) := by
  have hdb := hw.conforms
  have htables : ((updateProject u).seen w).2 = (Store.Command.updateProject u).after w.tables :=
    (Store.run_updateProject u w).2
  refine ⟨?_, ?_, ?_, ?_, ?_, ?_, ?_, ?_, ?_⟩
  · exact (Store.outcome_updateProject u hdb).trans (Store.reads_read _ _).1.symm
  · intro row hrow hid
    have hfits : (Store.Command.updateProject u).Fits w.tables := ⟨row, hrow, hid⟩
    refine ⟨Store.outcome_updateProject_of_mem hdb hrow hid, ?_, ?_⟩
    · intro id hne
      rw [htables, Store.Command.after_of_fits hdb hfits]
      exact Store.Command.getProject_effect_updateProject_of_ne hne w.tables
    · refine ⟨_, Store.Command.replacesOne_projects hdb hrow hid, ?_⟩
      rw [htables, Store.Command.after_of_fits hdb hfits]
      rfl
  · intro hnone
    have hfits : ¬ (Store.Command.updateProject u).Fits w.tables :=
      fun ⟨row, hrow, hid⟩ => hnone row hrow hid
    refine Prod.ext (Store.outcome_updateProject_of_not_mem hdb hnone) ?_
    rw [htables, Store.Command.after_of_not_fits hdb hfits]
  · exact fun v hid => Store.seen_updateProject_updateProject hid hdb
  · exact fun us v hus hid => Store.seen_runUpdates hus hid hdb
  · intro v hid hapart
    rw [Store.seen_updateProject_updateProject hid hdb,
      Store.seen_updateProject_updateProject hid.symm hdb, followedBy_comm hid hapart]
  · rw [Store.seen_updateProject_updateProject rfl hdb, followedBy_self]
  · intro host directory vaultDomain logoUrl darkModeLogoUrl hopen
    exact Operation.seen_updateProject host hopen u.projectId vaultDomain logoUrl darkModeLogoUrl
      hdb.complete
  · exact fun env name args before after hname hargs hroom =>
      Operation.ofArguments?_empty hname hargs hroom env

/-- A world with a console and nothing else. -/
def consoleWorld : World Unit where
  tables := Store.sampleConsole.tables
  protector := ()

/-- An update that empties a field. -/
def emptying : ProjectUpdate where
  projectId := .ofNat 1
  vaultDomain := some ""

/-- An update of another field. -/
def branding : ProjectUpdate where
  projectId := .ofNat 1
  logoUrl := some "logo.png"

/-- The two may change places. Neither finds a project that is not there, and the program takes an
empty value for none. -/
theorem updates_compose_console :
    (∃ project, consoleWorld.tables.getProject (.ofNat 1) = .ok project ∧
      ((updateProject emptying).seen consoleWorld).1 = .ok { project with vaultDomain := "" }) ∧
    (updateProject ⟨.ofNat 9, some "", none, none⟩).seen consoleWorld =
      (.error (.notFound s!"project {Uuid.ofNat 9}"), consoleWorld.tables) ∧
    (updateProject branding).seen ((updateProject emptying).run consoleWorld).2 =
      (updateProject emptying).seen ((updateProject branding).run consoleWorld).2 ∧
    ((Operation.updateProject "data" (IdFormat.project.format (.ofNat 1)) "" "logo.png" "").run
        Server.sampleHost).seen consoleWorld =
      ((((updateProject branding).seen consoleWorld).1.map updated).mapError
          fun e => .because "Update project failed" e.message,
        ((updateProject branding).seen consoleWorld).2) ∧
    Operation.ofArguments? [] ["update-project", "p", "--vault-domain", "", "--logo-url", "a"] =
      Operation.ofArguments? [] ["update-project", "p", "--logo-url", "a"] := by
  have hreach : Reachable consoleWorld.tables := Store.reachable_tables Store.sampleConsole rfl
  obtain ⟨-, hthere, -, -, -, hcommute, -, -, hempty⟩ := updates_compose hreach emptying
  obtain ⟨-, -, -, -, -, -, -, hprogram, -⟩ := updates_compose hreach branding
  obtain ⟨-, -, hmissing, -⟩ := updates_compose hreach ⟨.ofNat 9, some "", none, none⟩
  refine ⟨?_, ?_, ?_, ?_, ?_⟩
  · exact (hthere Store.sampleConsole.linkedRow List.mem_cons_self rfl).1
  · refine hmissing (List.forall_mem_singleton.2 fun h => ?_)
    exact absurd (Uuid.text_injective h) (by decide)
  · exact hcommute branding rfl ⟨.inr rfl, .inl rfl, .inl rfl⟩
  · exact hprogram Server.sampleHost "data" "" "logo.png" "" rfl
  · have hname : "--" ++ "vault-domain" = "--vault-domain" := by decide
    exact hempty [] "vault-domain" ["--vault-domain", ""] ["p"] ["--logo-url", "a"]
      List.mem_cons_self (hname ▸ .separate (by decide +kernel))
      ⟨by decide +kernel, by decide, by decide +kernel⟩

end ProjectUpdate
end Gatehouse
