import Gatehouse.Proofs.Store.Query
import Gatehouse.Proofs.Store.Transaction
import Gatehouse.Store.Open

/-!
# The states of the store

A state is reachable if some sequence of operations leads to it from a new store, with any arguments
and whether they succeed or not. Reachable tables conform to the schema, and the projects in them
are governed: one of them is the console, which owns the organizations, and organizations and
projects belong together one to one.
-/

namespace Gatehouse

namespace Store

/-- An operation that changes the store, with its arguments. -/
inductive Command where
  | createConsoleProject (p : NewConsoleProject)
  | createProject (p : NewProject)
  | updateProject (u : ProjectUpdate)
  | createSigningKey (key : SigningKey)
  | createApiKey (key : NewApiKey)
  | revokeApiKey (projectId id : Uuid)
  | countEmail (projectId : Uuid) (day : Int)

namespace Command

variable {σ : Type}

/-- The call of an operation, without what it hands out. -/
def call : Command → Call σ StoreError Unit
  | createConsoleProject p => Store.createConsoleProject p
  | createProject p => Store.createProject p
  | updateProject u => do let _ ← Store.updateProject u
  | createSigningKey key => Store.createSigningKey key
  | createApiKey key => do let _ ← Store.createApiKey key
  | revokeApiKey projectId id => Store.revokeApiKey projectId id
  | countEmail projectId day => do let _ ← Store.countEmail projectId day

/-- The statements of an operation. -/
def statements : Command → List Statement
  | createConsoleProject p => p.statements
  | createProject p => p.statements
  | updateProject u => u.statements
  | createSigningKey key => [.insertSigningKey key.row]
  | createApiKey key => [.insertApiKey key.row]
  | revokeApiKey projectId id => [.revokeApiKey projectId id]
  | countEmail projectId day => [.countEmail projectId day]

/-- What an operation answers once its statements have been carried out. -/
def answer : Command → Database → Except StoreError Unit
  | updateProject u => fun db => do let _ ← db.getProject u.projectId
  | countEmail projectId day => fun db => do let _ ← db.usageOn projectId day
  | _ => fun _ => .ok ()

/-- The tables after an operation. -/
def after (c : Command) (db : Database) : Database :=
  ((c.call : Call Unit StoreError Unit).run { tables := db, protector := () }).2.tables

end Command

/-- The tables that operations can lead to from a new store. -/
inductive Reachable : Database → Prop where
  | fresh : Reachable .empty
  | step {db : Database} (c : Command) (h : Reachable db) : Reachable (c.after db)

/-! ## Operations as transactions -/

section Run

variable {σ : Type}

/-- The tables after statements: a transaction that fails leaves them as they were. -/
def afterAll (ss : List Statement) (db : Database) : Database :=
  match Statement.all ss db with
  | .ok db => db
  | .error _ => db

theorem afterAll_of_ok {ss : List Statement} {db db' : Database}
    (h : Statement.all ss db = .ok db') : afterAll ss db = db' := by
  rw [afterAll, h]

theorem afterAll_of_error {ss : List Statement} {db : Database} {e : StoreError}
    (h : Statement.all ss db = .error e) : afterAll ss db = db := by
  rw [afterAll, h]

theorem run_runAll_of_ok {ss : List Statement} {w : World σ} {db : Database}
    (h : Statement.all ss w.tables = .ok db) :
    (runAll ss).run w = (.ok (), { w with tables := db }) :=
  Call.run_telling_of_ok (Call.run_transact_of_ok h)

/-- A transaction that fails leaves nothing but a warning, if another writer was in its way. -/
theorem run_runAll_of_error {ss : List Statement} {w : World σ} {e : StoreError}
    (h : Statement.all ss w.tables = .error e) :
    (runAll ss).run w = (.error e, { w with log := w.log ++ warnings e }) :=
  Call.run_telling_of_error (Call.run_transact_of_error h)

/-- An operation that reads after its statements ends as these say, or as it reads. -/
theorem run_runAll_bind {α : Type} (ss : List Statement) {f : Unit → Call σ StoreError α}
    {g : Database → Except StoreError α} (hf : Call.Reads (f ()) g) (w : World σ) :
    ((runAll ss >>= f).run w).1 = (Statement.all ss w.tables >>= g) ∧
      ((runAll ss >>= f).run w).2.tables = afterAll ss w.tables := by
  cases h : Statement.all ss w.tables with
  | error e =>
    rw [Call.run_bind_of_error (run_runAll_of_error h), afterAll_of_error h]
    exact ⟨rfl, rfl⟩
  | ok db =>
    rw [Call.run_bind_of_ok (run_runAll_of_ok h), afterAll_of_ok h]
    exact hf _

/-- Every operation is the transaction of its statements, and reads its answer afterwards. -/
theorem Command.run_call (c : Command) (w : World σ) :
    (c.call.run w).1 = (Statement.all c.statements w.tables >>= c.answer) ∧
      (c.call.run w).2.tables = afterAll c.statements w.tables := by
  -- An answer that is handed out is read all the same.
  have hdone : ∀ {α : Type} {c : Call σ StoreError α} {f : Database → Except StoreError α},
      Call.Reads c f → Call.Reads (do let _ ← c) fun db => f db >>= fun _ => .ok () :=
    fun hc => hc.bind fun _ => Call.reads_pure ()
  cases c with
  | createConsoleProject p => exact run_runAll_bind _ ((Call.reads_pure ()).emit_bind _) w
  | createProject p => exact run_runAll_bind _ ((Call.reads_pure ()).emit_bind _) w
  | updateProject u =>
    rw [call, Store.updateProject, bind_assoc]
    exact run_runAll_bind _ (hdone ((Store.reads_read _).emit_bind _)) w
  | createSigningKey key => exact run_runAll_bind _ ((Call.reads_pure ()).emit_bind _) w
  | createApiKey key =>
    rw [call, Store.createApiKey, bind_assoc]
    exact run_runAll_bind _ (hdone (Call.reads_pure _)) w
  | revokeApiKey projectId id =>
    have h := run_runAll_bind [.revokeApiKey projectId id] (Call.reads_pure ()) w
    rwa [bind_pure] at h
  | countEmail projectId day =>
    rw [call, Store.countEmail, bind_assoc]
    exact run_runAll_bind _ (hdone (Call.reads_query _)) w

theorem Command.after_eq (c : Command) (db : Database) : c.after db = afterAll c.statements db :=
  (c.run_call { tables := db, protector := () }).2

/-- Statements that are those of an operation lead to a reachable state. -/
theorem Reachable.of_statements {db db' : Database} (h : Reachable db) (c : Command)
    (hc : Statement.all c.statements db = .ok db') : Reachable db' := by
  have hstep := Reachable.step c h
  rwa [c.after_eq, afterAll_of_ok hc] at hstep

/-- The tables after an operation depend on those before it and on nothing else. -/
theorem Command.tables_run_call (c : Command) (w : World σ) :
    (c.call.run w).2.tables = c.after w.tables := by
  rw [(c.run_call w).2, c.after_eq]

/-- A store that is opened for the first time is in a reachable state. -/
theorem reachable_openIn (directory : String) {w : World σ} (h : w.tables = .empty) :
    Reachable ((openIn directory none).run w).2.tables := by
  have hreopen : ((openIn directory none).run w).2.tables = w.tables.reopen := rfl
  rw [hreopen, h]
  exact .fresh

/-- The tables that a bootstrap leaves in a new store are reachable. -/
theorem reachable_tables (p : NewConsoleProject) (h : p.signingKey.projectId = p.projectId) :
    Reachable p.tables := by
  have hall : Statement.all p.statements .empty = .ok p.tables := by
    rw [p.statements_empty, if_pos h]
  exact Reachable.fresh.of_statements (.createConsoleProject p) hall

end Run

end Store
end Gatehouse
