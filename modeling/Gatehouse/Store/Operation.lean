import Gatehouse.Call
import Gatehouse.Store.Query
import Gatehouse.Store.Statement

/-!
# Operations of the identity store

Each operation is one transaction. Those that make projects write all that belongs to a project
together.
-/

namespace Gatehouse.Store

variable {σ : Type}

/-- The part of the service that emits the events below. -/
def logTarget : String := "portier_storage_sqlite"

/-- What is logged about a failure where it arises: somebody else held the tables. -/
def warnings : StoreError → List Log.Event
  | .conflict detail => [{
      level := .warn, target := logTarget, message := "SQLite write conflict",
      fields := [("error", .text detail)] }]
  | _ => []

/-- Carries out statements as one transaction. -/
def runAll (ss : List Statement) : Call σ StoreError Unit :=
  (Call.transact (Statement.all ss)).telling warnings

/-- Asks the tables for something. -/
def read {α : Type} (f : Database → Except StoreError α) : Call σ StoreError α :=
  (Call.query f).telling warnings

/-- Writes the console project. Refused if there is any project. -/
def createConsoleProject (p : NewConsoleProject) : Call σ StoreError Unit := do
  runAll p.statements
  .emit { level := .info, target := logTarget, message := "Created console project",
          fields := [("project_id", .text p.projectId.text)] }

/-- Writes a tenant project. Refused unless it is made from the console project. -/
def createProject (p : NewProject) : Call σ StoreError Unit := do
  runAll p.statements
  .emit { level := .info, target := logTarget, message := "Created project",
          fields := [("project_id", .text p.projectId.text),
                     ("organization_id", .text p.organizationId.text)] }

/-- Reads a project. -/
def getProject (id : Uuid) : Call σ StoreError Project :=
  read (Database.getProject id)

/-- Changes some fields of a project and reads it back. -/
def updateProject (u : ProjectUpdate) : Call σ StoreError Project := do
  runAll u.statements
  .emit { level := .debug, target := logTarget, message := "Updated project",
          fields := [("project_id", .text u.projectId.text)] }
  getProject u.projectId

/-- Writes a signing key. -/
def createSigningKey (key : SigningKey) : Call σ StoreError Unit := do
  runAll [.insertSigningKey key.row]
  .emit { level := .debug, target := logTarget, message := "Stored session signing key",
          fields := [("project_id", .text key.projectId.text), ("key_id", .text key.id.text)] }

/-- Reads a project's signing keys that are active at a time, in order of preference. -/
def activeSigningKeys (projectId : Uuid) (now : Int) : Call σ StoreError (List SigningKey) :=
  read (Database.activeSigningKeys projectId now)

/-- Writes an API key. -/
def createApiKey (key : NewApiKey) : Call σ StoreError ApiKey := do
  runAll [.insertApiKey key.row]
  return key.record

/-- Reads the API key whose secret has a given digest. -/
def findApiKey (digest : Bytes) : Call σ StoreError (Option ApiKey) :=
  read (Database.findApiKey digest)

/-- Revokes an API key of a project. -/
def revokeApiKey (projectId id : Uuid) : Call σ StoreError Unit :=
  runAll [.revokeApiKey projectId id]

/-- Counts one email of a project on a day and reads the new count. The count is kept even if it
cannot be read. -/
def countEmail (projectId : Uuid) (day : Int) : Call σ StoreError Nat := do
  runAll [.countEmail projectId day]
  .query (Database.usageOn projectId day)

/-- Reads which project an organization manages. -/
def backedProject (organizationId : Uuid) : Call σ StoreError Uuid :=
  read (Database.backedProject organizationId)

end Gatehouse.Store
