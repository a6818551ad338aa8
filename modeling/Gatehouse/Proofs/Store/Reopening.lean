import Gatehouse.Proofs.Store.Atomicity
import Gatehouse.Proofs.Store.File

/-!
# Closing the store and opening it again

Between two programs that use it, a store is only its file. The rows in the file are as the schema
demands: this is what the tables conform to, told again for cells. The operations are followed
through a history in which the store is closed and opened any number of times; as each of them
depends on nothing but the tables, and these come back from the file as they were, nobody can tell.
-/

namespace Gatehouse.Store

/-! ## The demands of the schema -/

section Columns

variable {name : String} {required : Bool}

@[simp] theorem admits_text (s : String) :
    Column.admits ⟨name, .text, required⟩ (Coding.text.write s) = true := rfl

@[simp] theorem admits_octets (bs : Bytes) :
    Column.admits ⟨name, .blob, required⟩ (Coding.octets.write bs) = true := rfl

@[simp] theorem admits_flag (b : Bool) :
    Column.admits ⟨name, .integer, required⟩ (Coding.flag.write b) = true := rfl

@[simp] theorem admits_number (n : Int) :
    Column.admits ⟨name, .integer, required⟩ (Coding.number.write n) = true := by
  change Column.admits _ (Coding.numberCell n) = true
  unfold Coding.numberCell
  split <;> rfl

@[simp] theorem admits_optionalText (s : Option String) :
    Column.admits ⟨name, .text, false⟩ (Coding.text.writeOption s) = true := by
  cases s <;> rfl

@[simp] theorem admits_optionalNumber (n : Option Int) :
    Column.admits ⟨name, .integer, false⟩ (Coding.number.writeOption n) = true := by
  cases n with
  | none => rfl
  | some n => exact admits_number n

end Columns

namespace TableSchema

variable {ρ β γ : Type} {s : TableSchema} {columns : List String} {write : ρ → Row} {rows : List ρ}

theorem distinct_map_iff : s.Distinct columns (rows.map write) ↔ rows.Pairwise fun r r' =>
    .null ∉ s.key columns (write r) → s.key columns (write r) ≠ s.key columns (write r') :=
  List.pairwise_map

/-- Rows are distinct in a column that tells a value which no two of them share. -/
theorem distinct_of_column {c : Coding β} {f : ρ → β} (h : (rows.map f).Nodup)
    (hkey : ∀ r, s.key columns (write r) = [c.write (f r)]) :
    s.Distinct columns (rows.map write) := by
  refine distinct_map_iff.2 ((List.pairwise_map.1 h).imp fun hne _ heq => hne ?_)
  rw [hkey, hkey, List.cons.injEq] at heq
  exact c.write_inj.1 heq.1

/-- Rows are distinct in two columns that tell a pair which no two of them share. -/
theorem distinct_of_columns {c : Coding β} {c' : Coding γ} {f : ρ → β × γ} (h : (rows.map f).Nodup)
    (hkey : ∀ r, s.key columns (write r) = [c.write (f r).1, c'.write (f r).2]) :
    s.Distinct columns (rows.map write) := by
  refine distinct_map_iff.2 ((List.pairwise_map.1 h).imp fun hne _ heq => hne ?_)
  rw [hkey, hkey, List.cons.injEq, List.cons.injEq] at heq
  exact Prod.ext (c.write_inj.1 heq.1) (c'.write_inj.1 heq.2.1)

/-- Where a column holds the id of a parent, the parent's row has that id. -/
theorem exists_parent {π : Type} {parents : List π} {writeParent : π → Row} {p : TableSchema}
    {column : String} {parentId : ρ → String} {id : π → String}
    (h : ∀ r ∈ rows, parentId r ∈ parents.map id)
    (hcell : ∀ r, s.cell column (write r) = Coding.text.write (parentId r))
    (hparent : ∀ r, p.cell "id" (writeParent r) = Coding.text.write (id r)) :
    ∀ row ∈ rows.map write, ∃ parent ∈ parents.map writeParent,
      p.cell "id" parent = s.cell column row := by
  intro row hrow
  obtain ⟨r, hr, rfl⟩ := List.mem_map.1 hrow
  obtain ⟨parent, hmem, hid⟩ := List.mem_map.1 (h r hr)
  exact ⟨writeParent parent, List.mem_map_of_mem hmem, by rw [hparent, hcell, hid]⟩

end TableSchema

section Tables

open TableSchema

variable {db : Database}

theorem holds_projects (hdb : db.Conforms) : (schemaOf .projects).Holds db.cells where
  columns := by
    refine List.forall_mem_map.2 fun r _ => ?_
    simp [schemaOf, RowCoding.projects, idColumn]
  unique := by
    intro columns hcolumns
    rcases List.mem_pair.1 hcolumns with rfl | rfl
    · exact distinct_of_column hdb.projectIds fun _ => rfl
    · -- Rows that no organization manages may agree in that.
      refine distinct_map_iff.2 ((List.pairwise_map.1 hdb.projectIds).imp_of_mem ?_)
      intro p q hp hq hne hfull heq
      have hcells : Coding.text.writeOption p.organizationId =
          Coding.text.writeOption q.organizationId := List.head_eq_of_cons_eq heq
      have hsome : p.organizationId.isSome = true := by
        rw [Option.isSome_iff_ne_none]
        intro hnone
        refine hfull (List.mem_singleton.2 ?_)
        change Cell.null = Coding.text.writeOption p.organizationId
        rw [hnone]
        rfl
      exact hne (hdb.managers p hp q hq hsome (Coding.text.writeOption_inj.1 hcells))
  references := nofun

theorem holds_trustedDomains (hdb : db.Conforms) : (schemaOf .trustedDomains).Holds db.cells where
  columns := by
    refine List.forall_mem_map.2 fun r _ => ?_
    simp [schemaOf, RowCoding.trustedDomains]
  unique := by
    refine List.forall_mem_singleton.2 ?_
    have hpairs : (db.trustedDomains.map fun d => (d.projectId, d.domain)).Nodup := by
      refine hdb.domains.map fun ⟨id, domain⟩ ⟨id', domain'⟩ h => ?_
      obtain ⟨rfl, rfl⟩ := Prod.mk.inj h
      rfl
    exact distinct_of_columns hpairs fun _ => rfl
  references := by
    refine List.forall_mem_singleton.2 fun row hrow _ => ?_
    exact exists_parent hdb.domainParents (fun _ => rfl) (fun _ => rfl) row hrow

theorem holds_organizations (hdb : db.Conforms) : (schemaOf .organizations).Holds db.cells where
  columns := by
    refine List.forall_mem_map.2 fun r _ => ?_
    simp [schemaOf, RowCoding.organizations, idColumn]
  unique := List.forall_mem_singleton.2 (distinct_of_column hdb.organizationIds fun _ => rfl)
  references := by
    refine List.forall_mem_singleton.2 fun row hrow _ => ?_
    exact exists_parent hdb.organizationParents (fun _ => rfl) (fun _ => rfl) row hrow

theorem holds_users (hdb : db.Conforms) : (schemaOf .users).Holds db.cells where
  columns := by
    refine List.forall_mem_map.2 fun r _ => ?_
    simp [schemaOf, RowCoding.users, idColumn]
  unique := by
    intro columns hcolumns
    rcases List.mem_pair.1 hcolumns with rfl | rfl
    · exact distinct_of_column hdb.userIds fun _ => rfl
    · exact distinct_of_columns hdb.userEmails fun _ => rfl
  references := by
    refine List.forall_mem_singleton.2 fun row hrow _ => ?_
    exact exists_parent hdb.userParents (fun _ => rfl) (fun _ => rfl) row hrow

theorem holds_signingKeys (hdb : db.Conforms) : (schemaOf .signingKeys).Holds db.cells where
  columns := by
    refine List.forall_mem_map.2 fun r _ => ?_
    simp [schemaOf, RowCoding.signingKeys, idColumn]
  unique := List.forall_mem_singleton.2 (distinct_of_column hdb.keyIds fun _ => rfl)
  references := by
    refine List.forall_mem_singleton.2 fun row hrow _ => ?_
    exact exists_parent hdb.keyParents (fun _ => rfl) (fun _ => rfl) row hrow

theorem holds_apiKeys (hdb : db.Conforms) : (schemaOf .apiKeys).Holds db.cells where
  columns := by
    refine List.forall_mem_map.2 fun r _ => ?_
    simp [schemaOf, RowCoding.apiKeys, idColumn]
  unique := by
    intro columns hcolumns
    rcases List.mem_pair.1 hcolumns with rfl | rfl
    · exact distinct_of_column hdb.apiKeyIds fun _ => rfl
    · exact distinct_of_column hdb.digests fun _ => rfl
  references := by
    refine List.forall_mem_singleton.2 fun row hrow _ => ?_
    exact exists_parent hdb.apiKeyParents (fun _ => rfl) (fun _ => rfl) row hrow

theorem holds_quotaUsage (hdb : db.Conforms) : (schemaOf .quotaUsage).Holds db.cells where
  columns := by
    refine List.forall_mem_map.2 fun r _ => ?_
    simp [schemaOf, RowCoding.quotaUsage]
  unique := List.forall_mem_singleton.2 (distinct_of_columns hdb.counters fun _ => rfl)
  references := by
    refine List.forall_mem_singleton.2 fun row hrow _ => ?_
    exact exists_parent hdb.counterParents (fun _ => rfl) (fun _ => rfl) row hrow

theorem holds_consoleIndex (hdb : db.Conforms) :
    consoleIndex.Holds (schemaOf .projects) (db.cells .projects) := by
  intro _
  have hcovers : ∀ p, consoleIndex.covers (schemaOf .projects) (RowCoding.projects.write p) =
      p.isConsole := by
    intro p
    change (Coding.flag.write p.isConsole == Cell.integer 1) = p.isConsole
    cases p.isConsole <;> rfl
  have hrows : (db.cells .projects).filter (consoleIndex.covers (schemaOf .projects)) =
      (db.projects.filter (·.isConsole)).map RowCoding.projects.write := by
    rw [Database.cells, List.filter_map]
    congr 2
    exact funext hcovers
  rw [hrows, distinct_map_iff]
  -- Any two consoles would be one project, but no project has two rows.
  have hids : (db.projects.filter (·.isConsole)).Pairwise fun p q => p.id ≠ q.id :=
    (List.pairwise_map.1 hdb.projectIds).sublist List.filter_sublist
  refine hids.imp_of_mem fun {p q} hp hq hne => ?_
  rw [List.mem_filter] at hp hq
  exact absurd (hdb.consoles p hp.1 q hq.1 hp.2 hq.2) hne

/-- The file of a store is as every object of the schema demands. -/
theorem sound_file (hdb : db.Conforms) : db.file.Sound where
  tables := by
    intro s hs
    simp only [Database.file, migrations, List.mem_cons, SchemaObject.table.injEq, reduceCtorEq,
      List.not_mem_nil, or_false, false_or] at hs
    rcases hs with rfl | rfl | rfl | rfl | rfl | rfl | rfl
    · exact holds_projects hdb
    · exact holds_trustedDomains hdb
    · exact holds_organizations hdb
    · exact holds_users hdb
    · exact holds_signingKeys hdb
    · exact holds_apiKeys hdb
    · exact holds_quotaUsage hdb
  indexes := by
    intro i hi
    simp only [Database.file, migrations, List.mem_cons, SchemaObject.index.injEq, reduceCtorEq,
      List.not_mem_nil, or_false, false_or] at hi
    rcases hi with rfl | rfl
    · exact ⟨schemaOf .projects, rfl, holds_consoleIndex hdb⟩
    · refine ⟨schemaOf .signingKeys, rfl, fun hunique => ?_⟩
      cases hunique

end Tables

/-! ## Operations and what they hand out -/

/-- What an operation hands out. -/
inductive Answer where
  | done
  | project (p : Project)
  | signingKeys (keys : List SigningKey)
  | apiKey (key : ApiKey)
  | found (key : Option ApiKey)
  | projectId (id : Uuid)
  | count (n : Nat)
deriving DecidableEq, Repr

/-- An operation of the store, with its arguments. -/
inductive Operation where
  | command (c : Command)
  | request (r : Request)

namespace Operation

variable {σ : Type}

/-- The call of an operation. -/
def call : Operation → Call σ StoreError Answer
  | command (.createConsoleProject p) => do Store.createConsoleProject p; return .done
  | command (.createProject p) => do Store.createProject p; return .done
  | command (.updateProject u) => do return .project (← Store.updateProject u)
  | command (.createSigningKey key) => do Store.createSigningKey key; return .done
  | command (.createApiKey key) => do return .apiKey (← Store.createApiKey key)
  | command (.revokeApiKey projectId id) => do Store.revokeApiKey projectId id; return .done
  | command (.countEmail projectId day) => do return .count (← Store.countEmail projectId day)
  | request (.project id) => do return .project (← Store.getProject id)
  | request (.activeSigningKeys projectId now) => do
    return .signingKeys (← Store.activeSigningKeys projectId now)
  | request (.apiKey digest) => do return .found (← Store.findApiKey digest)
  | request (.backedProject organizationId) => do
    return .projectId (← Store.backedProject organizationId)

/-- The tables after an operation. -/
def after : Operation → Database → Database
  | command c => c.after
  | request _ => id

theorem reachable_after (o : Operation) {db : Database} (h : Reachable db) :
    Reachable (o.after db) := by
  cases o with
  | command c => exact .step c h
  | request r => exact h

/-- A call whose outcome depends on the tables alone, and that changes them in this way. -/
def Follows (c : Call σ StoreError Answer) (change : Database → Database) : Prop :=
  ∃ f : Database → Except StoreError Answer,
    ∀ w : World σ, (c.run w).1 = f w.tables ∧ (c.run w).2.tables = change w.tables

/-- What is read is handed out under its name. -/
theorem reads_answer {α : Type} {c : Call σ StoreError α} {f : Database → Except StoreError α}
    (hc : Call.Reads c f) (answer : α → Answer) :
    Call.Reads (do return answer (← c)) fun db => f db >>= fun a => .ok (answer a) :=
  hc.bind fun a => Call.reads_pure (answer a)

theorem follows_of_reads {c : Call σ StoreError Answer} {f : Database → Except StoreError Answer}
    (hc : Call.Reads c f) : Follows c id :=
  ⟨f, hc⟩

theorem follows_runAll (c : Command) {f : Unit → Call σ StoreError Answer}
    {g : Database → Except StoreError Answer} (hf : Call.Reads (f ()) g) :
    Follows (runAll c.statements >>= f) c.after := by
  refine ⟨fun db => Statement.all c.statements db >>= g, fun w => ?_⟩
  rw [c.after_eq]
  exact run_runAll_bind c.statements hf w

/-- What an operation hands out and what it leaves depend on the tables alone. -/
theorem follows_call (o : Operation) : Follows (o.call : Call σ StoreError Answer) o.after := by
  have hdone : Call.Reads (pure .done : Call σ StoreError Answer) fun _ => .ok .done :=
    Call.reads_pure _
  cases o with
  | command c =>
    cases c with
    | createConsoleProject p =>
      rw [call, Store.createConsoleProject, bind_assoc]
      exact follows_runAll (.createConsoleProject p) (hdone.emit_bind _)
    | createProject p =>
      rw [call, Store.createProject, bind_assoc]
      exact follows_runAll (.createProject p) (hdone.emit_bind _)
    | updateProject u =>
      rw [call, Store.updateProject, bind_assoc]
      exact follows_runAll (.updateProject u)
        (reads_answer ((Store.reads_read _).emit_bind _) .project)
    | createSigningKey key =>
      rw [call, Store.createSigningKey, bind_assoc]
      exact follows_runAll (.createSigningKey key) (hdone.emit_bind _)
    | createApiKey key =>
      rw [call, Store.createApiKey, bind_assoc]
      exact follows_runAll (.createApiKey key) (reads_answer (Call.reads_pure key.record) .apiKey)
    | revokeApiKey projectId id => exact follows_runAll (.revokeApiKey projectId id) hdone
    | countEmail projectId day =>
      rw [call, Store.countEmail, bind_assoc]
      exact follows_runAll (.countEmail projectId day) (reads_answer (Call.reads_query _) .count)
  | request r =>
    cases r with
    | project id => exact follows_of_reads (reads_answer (Store.reads_read _) .project)
    | activeSigningKeys projectId now =>
      exact follows_of_reads (reads_answer (Store.reads_read _) .signingKeys)
    | apiKey digest => exact follows_of_reads (reads_answer (Store.reads_read _) .found)
    | backedProject organizationId =>
      exact follows_of_reads (reads_answer (Store.reads_read _) .projectId)

end Operation

/-! ## Histories -/

variable {σ : Type}

/-- The store is closed, which leaves its file, and opened again from that. -/
def closeAndOpen (directory : String) : Call σ StoreError Unit :=
  openWith (fun db => db.file.opened) directory none

/-- What happens to a store. -/
inductive Event where
  | operation (o : Operation)
  /-- The store is closed, and opened again in its directory. -/
  | reopening (directory : String)

/-- Whether an event is an operation. -/
def Event.isOperation : Event → Bool
  | operation _ => true
  | reopening _ => false

/-- What is handed out at an event, and what is left after it. A store that cannot be opened again
hands out the failure. -/
def Event.run : Event → World σ → List (Except StoreError Answer) × World σ
  | operation o, w => ([(o.call.run w).1], (o.call.run w).2)
  | reopening directory, w =>
    match (closeAndOpen directory).run w with
    | (.ok (), w) => ([], w)
    | (.error e, w) => ([.error e], w)

/-- What is handed out at some events, and what is left after them. -/
def history : List Event → World σ → List (Except StoreError Answer) × World σ
  | [], w => ([], w)
  | e :: es, w => ((e.run w).1 ++ (history es (e.run w).2).1, (history es (e.run w).2).2)

theorem run_openWith (migrate : Statement) (directory : String) {w : World σ} {db : Database}
    (h : migrate w.tables = .ok db) :
    (openWith migrate directory none).run w =
      (.ok (), { ((openIn directory none).run w).2 with tables := db }) := by
  simp [openWith, openIn, note, Call.run_bind, Call.run_transact_of_ok, h]

theorem reopen_of_complete {db : Database} (h : db.missing = []) : db.reopen = db := by
  rw [Database.reopen, ← h]

/-- A store that is closed and opened again is opened as if it had not been closed. -/
theorem run_closeAndOpen (directory : String) {w : World σ} (hw : w.tables.Conforms) :
    (closeAndOpen directory).run w = (openIn directory none).run w ∧
      ((closeAndOpen directory).run w).1 = .ok () ∧
      ((closeAndOpen directory).run w).2.tables = w.tables := by
  have hclosed := run_openWith (fun db => db.file.opened) directory
    (File.opened_file hw.complete hw.unlocked)
  have hopen : (openIn directory none).run w =
      (.ok (), { ((openIn directory none).run w).2 with tables := w.tables }) :=
    run_openWith _ directory (congrArg Except.ok (reopen_of_complete hw.complete))
  refine ⟨hclosed.trans hopen.symm, ?_, ?_⟩
  · rw [closeAndOpen, hclosed]
  · rw [closeAndOpen, hclosed]

/-- The events of a history without the reopenings hand out the same and leave the same tables. -/
theorem history_filter (events : List Event) {w w' : World σ} (hw : Reachable w.tables)
    (hsame : w'.tables = w.tables) :
    (history events w).1 = (history (events.filter Event.isOperation) w').1 ∧
      (history events w).2.tables = (history (events.filter Event.isOperation) w').2.tables ∧
      Reachable (history events w).2.tables := by
  -- Reopening is written to the log, so the two worlds agree in their tables only.
  induction events generalizing w w' with
  | nil => exact ⟨rfl, hsame.symm, hw⟩
  | cons e events ih =>
    cases e with
    | operation o =>
      obtain ⟨f, hf⟩ := o.follows_call (σ := σ)
      obtain ⟨hanswer, htables⟩ := hf w
      obtain ⟨hanswer', htables'⟩ := hf w'
      rw [hsame] at hanswer' htables'
      obtain ⟨hanswers, hleft, hreach⟩ := ih (htables ▸ o.reachable_after hw)
        (htables'.trans htables.symm)
      refine ⟨?_, hleft, hreach⟩
      change [_] ++ _ = [_] ++ _
      rw [hanswer, hanswer']
      exact congrArg ([f w.tables] ++ ·) hanswers
    | reopening directory =>
      obtain ⟨-, hok, htables⟩ := run_closeAndOpen directory hw.conforms
      have hrun : (Event.reopening directory).run w = ([], ((closeAndOpen directory).run w).2) := by
        rw [Event.run]
        rcases hclosed : (closeAndOpen directory).run w with ⟨e | a, after⟩
        · rw [hclosed] at hok
          cases hok
        · rfl
      have hwithout := ih (htables.symm ▸ hw) (hsame.trans htables.symm)
      rw [history, hrun]
      exact hwithout

/-- **Reopening is invisible.** Whatever operations are carried out on a store, with whatever
arguments, and wherever between them it is closed and opened again: they hand out the same, and
leave the same tables, as if it had never been closed. What is left comes back from the file without
loss, and is opened as it would be without one. The migrations find all that they would make, and
change no object and no row; and the rows are as every object demands. -/
theorem reopening_invisible {w : World σ} (hw : Reachable w.tables) (events : List Event) :
    (history events w).1 = (history (events.filter Event.isOperation) w).1 ∧
      (history events w).2.tables = (history (events.filter Event.isOperation) w).2.tables ∧
      (history events w).2.tables.file.createAll migrations = .ok (history events w).2.tables.file ∧
      (history events w).2.tables.file.opened = .ok (history events w).2.tables ∧
      (∀ directory, (closeAndOpen directory).run (history events w).2 =
        (openIn directory none).run (history events w).2) ∧
      (history events w).2.tables.file.Sound := by
  obtain ⟨hanswers, htables, hreach⟩ := history_filter events hw rfl
  have hconforms := hreach.conforms
  refine ⟨hanswers, htables, File.createAll_file _,
    File.opened_file hconforms.complete hconforms.unlocked, ?_, sound_file hconforms⟩
  exact fun directory => (run_closeAndOpen directory hconforms).1

/-- A key to be stored, with text, bytes and a time from the edges of their types. -/
def sampleApiKey : NewApiKey where
  id := .ofNat 5
  projectId := .ofNat 1
  displayName := "schlüssel 🔑"
  secretDigest := [0, 0x80, 0xFF]
  authenticationOnly := true
  createdAt := -Limit.bits63

/-- The key is stored by one program and looked up by another. -/
def sampleHistory : List Event := [
  .operation (.command (.createApiKey sampleApiKey)), .reopening "data",
  .operation (.request (.apiKey sampleApiKey.secretDigest)), .reopening "data/"]

/-- The second program finds the key as if it had stored it itself. -/
theorem reopening_invisible_apiKey :
    (history sampleHistory (World.mk sampleConsole.tables () [])).1 =
        [.ok (.apiKey sampleApiKey.record), .ok (.found (some sampleApiKey.record))] ∧
      (history (sampleHistory.filter Event.isOperation) (World.mk sampleConsole.tables () [])).1 =
        [.ok (.apiKey sampleApiKey.record), .ok (.found (some sampleApiKey.record))] :=
  have hanswers : (history sampleHistory (World.mk sampleConsole.tables () [])).1 =
      [.ok (.apiKey sampleApiKey.record), .ok (.found (some sampleApiKey.record))] := by
    decide +kernel
  ⟨hanswers, (reopening_invisible (w := World.mk sampleConsole.tables () [])
    (reachable_tables sampleConsole rfl) sampleHistory).1.symm.trans hanswers⟩

end Gatehouse.Store
