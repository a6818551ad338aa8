import Gatehouse.Proofs.Store.Schema
import Gatehouse.Proofs.Traversal
import Gatehouse.Proofs.Utf8
import Mathlib.Logic.Function.Basic

/-!
# The database file

What is left of a store while it is closed. The file holds the objects of the schema, each with all
that it demands of the rows, and the rows of each table, oldest first, as cells. Closing writes the
tables down. Opening carries out the migrations, each of which makes one object unless there is one
of its name, and reads the tables back.
-/

namespace Gatehouse.Store

/-! ## Cells -/

/-- A value in a row of the file. -/
inductive Cell where
  | null
  /-- A number of 64 bits, in two's complement. -/
  | integer (word : BitVec 64)
  /-- A whole number beyond 64 bits, which is kept in floating form. Only a counter grows into one,
  and the number it then stays at is a power of two, which that form holds exactly. -/
  | real (n : Int)
  /-- A text, as UTF-8. -/
  | text (octets : Bytes)
  | blob (octets : Bytes)
deriving DecidableEq, Repr

/-- The cells of a row, one for each column of its table. -/
abbrev Row := List Cell

/-- How values of a type are written into cells, none of them empty, and read back. -/
structure Coding (α : Type) where
  write : α → Cell
  read? : Cell → Option α
  write_ne_null : ∀ a, write a ≠ .null
  read?_write : ∀ a, read? (write a) = some a

namespace Coding

variable {α : Type}

attribute [simp] write_ne_null read?_write

/-- Texts. -/
def text : Coding String where
  write s := .text (Utf8.encode s)
  read?
    | .text octets => Utf8.text? octets
    | _ => none
  write_ne_null := nofun
  read?_write s := Utf8.text?_encode s

/-- Byte strings. -/
def octets : Coding Bytes where
  write := .blob
  read?
    | .blob octets => some octets
    | _ => none
  write_ne_null := nofun
  read?_write _ := rfl

/-- Truth values, as 0 and 1. -/
def flag : Coding Bool where
  write b := .integer (if b then 1 else 0)
  read?
    | .integer word => some (word != 0)
    | _ => none
  write_ne_null := nofun
  read?_write b := by cases b <;> rfl

/-- The cell of a whole number. -/
def numberCell (n : Int) : Cell :=
  if Limit.isInt64 n then .integer (BitVec.ofInt 64 n) else .real n

/-- The whole number in a cell. -/
def number? : Cell → Option Int
  | .integer word => some word.toInt
  | .real n => some n
  | _ => none

theorem number?_numberCell (n : Int) : number? (numberCell n) = some n := by
  cases h : Limit.isInt64 n with
  | false => simp only [numberCell, h, Bool.false_eq_true, if_false, number?]
  | true =>
    -- Two's complement loses nothing within 64 bits.
    have hrange : -(2 ^ 63 : Int) ≤ n ∧ n < 2 ^ 63 := by
      rwa [Limit.isInt64, Bool.and_eq_true, decide_eq_true_eq, decide_eq_true_eq] at h
    have hword : (BitVec.ofInt 64 n).toInt = n := by
      rw [BitVec.toInt_ofInt]
      exact Int.bmod_eq_of_le hrange.1 hrange.2
    simp only [numberCell, h, if_true, number?, hword]

/-- Whole numbers. -/
def number : Coding Int where
  write := numberCell
  read? := number?
  write_ne_null n := by
    unfold numberCell
    split <;> exact nofun
  read?_write := number?_numberCell

/-- An absent value leaves its cell empty. -/
def writeOption (c : Coding α) : Option α → Cell
  | none => .null
  | some a => c.write a

/-- Reads a cell that may be empty. -/
def readOption? (c : Coding α) (cell : Cell) : Option (Option α) :=
  if cell = .null then some none else (c.read? cell).map some

@[simp] theorem readOption?_writeOption (c : Coding α) (a : Option α) :
    c.readOption? (c.writeOption a) = some a := by
  cases a <;> simp [readOption?, writeOption]

/-- Different values have different cells. -/
theorem write_inj (c : Coding α) {a b : α} : c.write a = c.write b ↔ a = b := by
  refine ⟨fun h => ?_, fun h => h ▸ rfl⟩
  have hread := c.read?_write b
  rw [← h, c.read?_write] at hread
  exact Option.some.inj hread

theorem writeOption_inj (c : Coding α) {a b : Option α} :
    c.writeOption a = c.writeOption b ↔ a = b := by
  refine ⟨fun h => ?_, fun h => h ▸ rfl⟩
  have hread := c.readOption?_writeOption b
  rw [← h, c.readOption?_writeOption] at hread
  exact Option.some.inj hread

end Coding

/-! ## Rows -/

/-- How the rows of a table are written into cells and read back. -/
structure RowCoding (ρ : Type) where
  write : ρ → Row
  read? : Row → Option ρ
  read?_write : ∀ r, read? (write r) = some r

namespace RowCoding

open Coding

variable {ρ : Type}

/-- Reads the rows of a table. -/
def readAll? (c : RowCoding ρ) (rows : List Row) : Option (List ρ) :=
  rows.mapM c.read?

@[simp] theorem readAll?_write (c : RowCoding ρ) (rows : List ρ) :
    c.readAll? (rows.map c.write) = some rows :=
  Traversal.mapM_map_eq_some fun r _ => c.read?_write r

/-- The rows of the projects. -/
def projects : RowCoding ProjectRow where
  write r := [text.write r.id, text.writeOption r.organizationId, flag.write r.isConsole,
    text.write r.displayName, text.write r.vaultDomain, text.write r.cookieDomain,
    text.writeOption r.logoUrl, text.writeOption r.darkModeLogoUrl,
    number.writeOption r.emailQuotaDaily, number.write r.createdAt]
  read?
    | [id, organizationId, isConsole, displayName, vaultDomain, cookieDomain, logoUrl,
        darkModeLogoUrl, emailQuotaDaily, createdAt] => do
      return {
        id := ← text.read? id, organizationId := ← text.readOption? organizationId,
        isConsole := ← flag.read? isConsole, displayName := ← text.read? displayName,
        vaultDomain := ← text.read? vaultDomain, cookieDomain := ← text.read? cookieDomain,
        logoUrl := ← text.readOption? logoUrl,
        darkModeLogoUrl := ← text.readOption? darkModeLogoUrl,
        emailQuotaDaily := ← number.readOption? emailQuotaDaily,
        createdAt := ← number.read? createdAt }
    | _ => none
  read?_write r := by simp

/-- The rows of the trusted domains. -/
def trustedDomains : RowCoding TrustedDomainRow where
  write r := [text.write r.projectId, text.write r.domain]
  read?
    | [projectId, domain] => do
      return { projectId := ← text.read? projectId, domain := ← text.read? domain }
    | _ => none
  read?_write r := by simp

/-- The rows of the organizations. -/
def organizations : RowCoding OrganizationRow where
  write r := [text.write r.id, text.write r.projectId, text.write r.displayName,
    number.write r.createdAt]
  read?
    | [id, projectId, displayName, createdAt] => do
      return {
        id := ← text.read? id, projectId := ← text.read? projectId,
        displayName := ← text.read? displayName, createdAt := ← number.read? createdAt }
    | _ => none
  read?_write r := by simp

/-- The rows of the users. -/
def users : RowCoding UserRow where
  write r := [text.write r.id, text.write r.organizationId, text.write r.email,
    text.writeOption r.passwordHash, flag.write r.isOwner, number.write r.createdAt]
  read?
    | [id, organizationId, email, passwordHash, isOwner, createdAt] => do
      return {
        id := ← text.read? id, organizationId := ← text.read? organizationId,
        email := ← text.read? email, passwordHash := ← text.readOption? passwordHash,
        isOwner := ← flag.read? isOwner, createdAt := ← number.read? createdAt }
    | _ => none
  read?_write r := by simp

/-- The rows of the signing keys. -/
def signingKeys : RowCoding SigningKeyRow where
  write r := [text.write r.id, text.write r.projectId, octets.write r.publicKey,
    octets.write r.privateKeyCiphertext, number.write r.expiresAt, number.write r.createdAt]
  read?
    | [id, projectId, publicKey, privateKeyCiphertext, expiresAt, createdAt] => do
      return {
        id := ← text.read? id, projectId := ← text.read? projectId,
        publicKey := ← octets.read? publicKey,
        privateKeyCiphertext := ← octets.read? privateKeyCiphertext,
        expiresAt := ← number.read? expiresAt, createdAt := ← number.read? createdAt }
    | _ => none
  read?_write r := by simp

/-- The rows of the API keys. -/
def apiKeys : RowCoding ApiKeyRow where
  write r := [text.write r.id, text.write r.projectId, text.write r.displayName,
    octets.write r.secretDigest, flag.write r.authenticationOnly, flag.write r.revoked,
    number.write r.createdAt]
  read?
    | [id, projectId, displayName, secretDigest, authenticationOnly, revoked, createdAt] => do
      return {
        id := ← text.read? id, projectId := ← text.read? projectId,
        displayName := ← text.read? displayName, secretDigest := ← octets.read? secretDigest,
        authenticationOnly := ← flag.read? authenticationOnly,
        revoked := ← flag.read? revoked, createdAt := ← number.read? createdAt }
    | _ => none
  read?_write r := by simp

/-- The rows of the email counters. -/
def quotaUsage : RowCoding UsageRow where
  write r := [text.write r.projectId, number.write r.day, number.write r.usage]
  read?
    | [projectId, day, usage] => do
      return {
        projectId := ← text.read? projectId, day := ← number.read? day,
        usage := ← number.read? usage }
    | _ => none
  read?_write r := by simp

end RowCoding

/-! ## The schema -/

/-- What kind of values a column holds. -/
inductive ColumnKind where
  | text
  | integer
  | blob
deriving DecidableEq, Repr

/-- A column of a table. -/
structure Column where
  name : String
  kind : ColumnKind
  /-- Whether no cell of the column is empty. -/
  required : Bool := true
deriving DecidableEq, Repr

/-- Whether a cell can stand in a column. -/
def Column.admits (c : Column) : Cell → Bool
  | .null => !c.required
  | .integer _ | .real _ => c.kind == .integer
  | .text _ => c.kind == .text
  | .blob _ => c.kind == .blob

/-- What is demanded of the rows of a table. -/
structure TableSchema where
  table : Table
  columns : List Column
  /-- The columns in which no two rows agree, those of the primary key first. -/
  unique : List (List String)
  /-- The columns that hold the id of a row of another table. -/
  references : List (String × Table) := []
deriving DecidableEq, Repr

/-- An index on the rows of a table. -/
structure Index where
  name : String
  table : Table
  columns : List String
  /-- Whether no two rows in the index agree in its columns. -/
  unique : Bool := false
  /-- The column that is 1 in the rows of the index, if not all rows are in it. -/
  marker : Option String := none
deriving DecidableEq, Repr

/-- An object of the schema. -/
inductive SchemaObject where
  | table (schema : TableSchema)
  | index (index : Index)
deriving DecidableEq, Repr

/-- The name of an object. Tables and indexes share their names. -/
def SchemaObject.name : SchemaObject → String
  | table schema => schema.table.name
  | index i => i.name

/-- The columns of ids, which may be empty as far as their declaration goes. -/
def idColumn : Column := ⟨"id", .text, false⟩

/-- The schema of a table. -/
def schemaOf : Table → TableSchema
  | .projects => {
      table := .projects
      columns := [idColumn, ⟨"organization_id", .text, false⟩, ⟨"is_console", .integer, true⟩,
        ⟨"display_name", .text, true⟩, ⟨"vault_domain", .text, true⟩,
        ⟨"cookie_domain", .text, true⟩, ⟨"logo_url", .text, false⟩,
        ⟨"dark_mode_logo_url", .text, false⟩, ⟨"email_quota_daily", .integer, false⟩,
        ⟨"created_at", .integer, true⟩]
      unique := [["id"], ["organization_id"]] }
  | .trustedDomains => {
      table := .trustedDomains
      columns := [⟨"project_id", .text, true⟩, ⟨"domain", .text, true⟩]
      unique := [["project_id", "domain"]]
      references := [("project_id", .projects)] }
  | .organizations => {
      table := .organizations
      columns := [idColumn, ⟨"project_id", .text, true⟩, ⟨"display_name", .text, true⟩,
        ⟨"created_at", .integer, true⟩]
      unique := [["id"]]
      references := [("project_id", .projects)] }
  | .users => {
      table := .users
      columns := [idColumn, ⟨"organization_id", .text, true⟩, ⟨"email", .text, true⟩,
        ⟨"password_hash", .text, false⟩, ⟨"is_owner", .integer, true⟩,
        ⟨"created_at", .integer, true⟩]
      unique := [["id"], ["organization_id", "email"]]
      references := [("organization_id", .organizations)] }
  | .signingKeys => {
      table := .signingKeys
      columns := [idColumn, ⟨"project_id", .text, true⟩, ⟨"public_key", .blob, true⟩,
        ⟨"private_key_ciphertext", .blob, true⟩, ⟨"expires_at", .integer, true⟩,
        ⟨"created_at", .integer, true⟩]
      unique := [["id"]]
      references := [("project_id", .projects)] }
  | .apiKeys => {
      table := .apiKeys
      columns := [idColumn, ⟨"project_id", .text, true⟩, ⟨"display_name", .text, true⟩,
        ⟨"secret_sha256", .blob, true⟩, ⟨"authentication_only", .integer, true⟩,
        ⟨"revoked", .integer, true⟩, ⟨"created_at", .integer, true⟩]
      unique := [["id"], ["secret_sha256"]]
      references := [("project_id", .projects)] }
  | .quotaUsage => {
      table := .quotaUsage
      columns := [⟨"project_id", .text, true⟩, ⟨"day", .integer, true⟩,
        ⟨"quota_usage", .integer, true⟩]
      unique := [["project_id", "day"]]
      references := [("project_id", .projects)] }

/-- The index that keeps a second console out. -/
def consoleIndex : Index where
  name := "idx_projects_console"
  table := .projects
  columns := ["is_console"]
  unique := true
  marker := some "is_console"

/-- The index by which the keys of a project are found. -/
def signingKeyIndex : Index where
  name := "idx_session_signing_keys_project"
  table := .signingKeys
  columns := ["project_id", "expires_at"]

/-- What the migrations make, in their order. -/
def migrations : List SchemaObject := [
  .table (schemaOf .projects), .index consoleIndex, .table (schemaOf .trustedDomains),
  .table (schemaOf .organizations), .table (schemaOf .users), .table (schemaOf .signingKeys),
  .index signingKeyIndex, .table (schemaOf .apiKeys), .table (schemaOf .quotaUsage)]

namespace TableSchema

/-- The cell of a row in a column. -/
def cell (s : TableSchema) (column : String) (row : Row) : Cell :=
  (((s.columns.map (·.name)).zip row).lookup column).getD .null

/-- The cells of a row in some columns. -/
def key (s : TableSchema) (columns : List String) (row : Row) : List Cell :=
  columns.map fun column => s.cell column row

/-- No two rows agree in some columns, unless one of them is empty. -/
def Distinct (s : TableSchema) (columns : List String) (rows : List Row) : Prop :=
  rows.Pairwise fun r r' => .null ∉ s.key columns r → s.key columns r ≠ s.key columns r'

instance (s : TableSchema) (columns : List String) (rows : List Row) :
    Decidable (s.Distinct columns rows) :=
  inferInstanceAs (Decidable (rows.Pairwise _))

/-- The rows of the tables are as the schema of one of them demands. -/
structure Holds (s : TableSchema) (rows : Table → List Row) : Prop where
  columns : ∀ row ∈ rows s.table, List.Forall₂ (fun c cell => c.admits cell = true) s.columns row
  unique : ∀ columns ∈ s.unique, s.Distinct columns (rows s.table)
  references : ∀ r ∈ s.references, ∀ row ∈ rows s.table, s.cell r.1 row ≠ .null →
    ∃ parent ∈ rows r.2, (schemaOf r.2).cell "id" parent = s.cell r.1 row

end TableSchema

/-- Whether a row is in an index. -/
def Index.covers (i : Index) (s : TableSchema) (row : Row) : Bool :=
  i.marker.all fun column => s.cell column row == .integer 1

/-- The rows of a table are as an index demands. -/
def Index.Holds (i : Index) (s : TableSchema) (rows : List Row) : Prop :=
  i.unique = true → s.Distinct i.columns (rows.filter (i.covers s))

instance (i : Index) (s : TableSchema) (rows : List Row) : Decidable (i.Holds s rows) :=
  inferInstanceAs (Decidable (_ → _))

/-! ## The file -/

/-- A database file. -/
structure File where
  /-- The objects of the schema, oldest first. -/
  objects : List SchemaObject
  rows : Table → List Row

namespace File

/-- A file in which nothing has been made. -/
def blank : File := ⟨[], fun _ => []⟩

/-- Whether there is an object of a name. -/
def has (f : File) (name : String) : Bool :=
  f.objects.any (·.name == name)

/-- The schema of a table, if there is one. -/
def schema? (f : File) (t : Table) : Option TableSchema :=
  f.objects.findSome? fun
    | .table s => if s.table = t then some s else none
    | .index _ => none

/-- The failure of a migration. -/
def migrationFailure (code : Nat) (detail : String) : StoreError :=
  .connectionFailed
    s!"migration failed: error returned from database: (code: {code}) {detail}"

/-- Makes an object unless there is one of its name. A table is made empty; a unique index is
refused if rows that are there disagree with it. -/
def create (f : File) (o : SchemaObject) : Except StoreError File :=
  if f.has o.name then .ok f
  else match o with
    | .table s => .ok ⟨f.objects ++ [o], Function.update f.rows s.table []⟩
    | .index i =>
      match f.schema? i.table with
      | none => .error (migrationFailure 1 ("no such table: main." ++ i.table.name))
      | some s =>
        if i.Holds s (f.rows i.table) then .ok ⟨f.objects ++ [o], f.rows⟩
        else .error (migrationFailure 2067 ("UNIQUE constraint failed: " ++
          ", ".intercalate (i.columns.map fun c => i.table.name ++ "." ++ c)))

/-- Makes objects, one after the other. -/
def createAll (f : File) (os : List SchemaObject) : Except StoreError File :=
  os.foldlM create f

/-- Reads the tables. -/
def tables? (f : File) : Option Database := do
  return {
    projects := ← RowCoding.projects.readAll? (f.rows .projects)
    trustedDomains := ← RowCoding.trustedDomains.readAll? (f.rows .trustedDomains)
    organizations := ← RowCoding.organizations.readAll? (f.rows .organizations)
    users := ← RowCoding.users.readAll? (f.rows .users)
    signingKeys := ← RowCoding.signingKeys.readAll? (f.rows .signingKeys)
    apiKeys := ← RowCoding.apiKeys.readAll? (f.rows .apiKeys)
    quotaUsage := ← RowCoding.quotaUsage.readAll? (f.rows .quotaUsage)
    missing := Table.all.filter fun t => !f.has t.name }

/-- The tables of a store that is opened from a file. -/
def opened (f : File) : Except StoreError Database := do
  let f ← f.createAll migrations
  match f.tables? with
  | some db => .ok db
  | none => .error (.malformedValue "row")

/-- Every object of the schema holds of the rows. -/
structure Sound (f : File) : Prop where
  tables : ∀ s, .table s ∈ f.objects → s.Holds f.rows
  indexes : ∀ i, .index i ∈ f.objects → ∃ s, f.schema? i.table = some s ∧ i.Holds s (f.rows i.table)

end File
end Gatehouse.Store

namespace Gatehouse.Database

open Store

/-- The rows of a table, as cells. -/
def cells (db : Database) : Table → List Row
  | .projects => db.projects.map RowCoding.projects.write
  | .trustedDomains => db.trustedDomains.map RowCoding.trustedDomains.write
  | .organizations => db.organizations.map RowCoding.organizations.write
  | .users => db.users.map RowCoding.users.write
  | .signingKeys => db.signingKeys.map RowCoding.signingKeys.write
  | .apiKeys => db.apiKeys.map RowCoding.apiKeys.write
  | .quotaUsage => db.quotaUsage.map RowCoding.quotaUsage.write

/-- The file of a store that is closed while it has all of its tables. -/
def file (db : Database) : File := ⟨migrations, db.cells⟩

end Gatehouse.Database

/-! ## Opening -/

namespace Gatehouse.Store.File

theorem create_of_has {f : File} {o : SchemaObject} (h : f.has o.name = true) :
    f.create o = .ok f :=
  if_pos h

/-- Migrations that make nothing new change neither an object nor a row. -/
theorem createAll_of_has {f : File} {os : List SchemaObject} (h : ∀ o ∈ os, f.has o.name = true) :
    f.createAll os = .ok f := by
  induction os with
  | nil => rfl
  | cons o os ih =>
    rw [createAll, List.foldlM_cons, create_of_has (h o List.mem_cons_self)]
    exact ih fun o ho => h o (List.mem_cons_of_mem _ ho)

theorem createAll_file (db : Database) : db.file.createAll migrations = .ok db.file :=
  createAll_of_has fun _ ho => List.any_eq_true.2 ⟨_, ho, beq_self_eq_true _⟩

theorem tables?_file {db : Database} (h : db.missing = []) (hopen : db.refusal = none) :
    db.file.tables? = some db := by
  obtain ⟨projects, domains, organizations, users, keys, apiKeys, usage, missing, refusal⟩ := db
  obtain rfl : missing = [] := h
  obtain rfl : refusal = none := hopen
  simp only [tables?, Database.file, Database.cells, RowCoding.readAll?_write]
  rfl

/-- What was written down is read back. -/
theorem opened_file {db : Database} (h : db.missing = []) (hopen : db.refusal = none) :
    db.file.opened = .ok db := by
  rw [opened, createAll_file]
  simp only [bind, Except.bind, tables?_file h hopen]

/-- Opening where there is no file gives a new store. -/
theorem opened_blank : blank.opened = .ok .empty :=
  rfl

end Gatehouse.Store.File
