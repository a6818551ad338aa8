import Gatehouse.Store.Operation

/-!
# Opening the store

All tables live in one file of a data directory. The directory, the file and each table are made
if they are absent; what is there stays as it is.
-/

namespace Gatehouse

/-- What can stand in the way of a store in a directory. -/
inductive Obstacle where
  /-- A file stands in the place of the directory. -/
  | fileInPlace
  /-- The path of the directory leads through a file. -/
  | fileOnPath
  /-- The database file holds something else. -/
  | foreignFile
  /-- A directory stands in the place of the database file. -/
  | directoryInPlace
deriving DecidableEq, Repr

namespace Obstacle

/-- Whether the directory itself cannot be had. -/
def blocksDirectory : Obstacle → Bool
  | fileInPlace | fileOnPath => true
  | foreignFile | directoryInPlace => false

/-- The failure that an obstacle causes. -/
def failure (o : Obstacle) : StoreError :=
  .connectionFailed (match o with
    | fileInPlace => "failed to create directory: File exists (os error 17)"
    | fileOnPath => "failed to create directory: Not a directory (os error 20)"
    | foreignFile => "error returned from database: (code: 26) file is not a database"
    | directoryInPlace => "error returned from database: (code: 14) unable to open database file")

end Obstacle

namespace Store

variable {σ : Type}

/-- The name of the database file. -/
def databaseFile : String := "portier.db"

/-- The path of the database file in a directory. -/
def databasePath (directory : String) : String :=
  if directory = "" ∨ directory.endsWith "/" then directory ++ databaseFile
  else directory ++ "/" ++ databaseFile

/-- Emits an event about the opening of the store. -/
def note (level : Log.Level) (message : String) (fields : Log.Fields := []) :
    Call σ StoreError Unit :=
  .emit { level, target := logTarget, message, fields }

/-- Opens the store in a directory, where the migrations do this to the tables. -/
def openWith (migrate : Statement) (directory : String) (obstacle : Option Obstacle) :
    Call σ StoreError Unit := do
  let path : Log.Fields := [("path", .text (databasePath directory))]
  if let some o := obstacle.filter (·.blocksDirectory) then .fail o.failure
  note .debug "Opening SQLite database" path
  if let some o := obstacle then .fail o.failure
  note .debug "Running database migrations"
  .transact migrate
  note .debug "Migrations complete"
  note .info "SQLite store ready" path

/-- Opens the store in a directory. -/
def openIn (directory : String) (obstacle : Option Obstacle) : Call σ StoreError Unit :=
  openWith (fun db => .ok db.reopen) directory obstacle

end Store
end Gatehouse
