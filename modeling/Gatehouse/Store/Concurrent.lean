import Gatehouse.Store.Statement
import Mathlib.Logic.Function.Basic

/-!
# Transactions side by side

Several callers work on one store, each with a transaction of its own that reads before it writes.
Reading shows the tables as they were committed then. Writing needs the lock, which one caller has
at a time, and only a caller whose reading still shows what is committed can have it; any other is
refused at once. What a caller writes is its own until it commits, and is gone if a statement fails.

A caller that waits for others is one that is not stepped.
-/

namespace Gatehouse

/-- The failure of a call that the database has no lock for, by the code of the refusal. -/
def StoreError.ofLockCode (code : Nat) : StoreError :=
  .ofRefusal code "database is locked"

namespace Store

/-- The code for a lock that another caller has. -/
def busy : Nat := 5

/-- The code for a reading that no longer shows what is committed. -/
def busySnapshot : Nat := 517

/-- A transaction that reads before it writes. -/
structure Transaction where
  /-- What is read, and when it forbids to go on. -/
  check : Statement
  /-- The statement that is the first to write. -/
  first : Statement
  /-- The statements after it. -/
  rest : List Statement
  check_reads : ∀ db db', check db = .ok db' → db' = db

/-- The statements of a transaction, in their order. -/
def Transaction.statements (t : Transaction) : List Statement :=
  t.check :: t.first :: t.rest

/-- How far a caller has come. -/
inductive Progress where
  | ready
  /-- The transaction has begun. It has seen nothing yet. -/
  | begun
  /-- The transaction has read these tables, after so many commits. -/
  | checked (seen : Database) (position : Nat)
  /-- The transaction has the lock. These are the tables with its own writes, and the statements
  that are left. -/
  | writing (mine : Database) (rest : List Statement)
  | finished (outcome : Except StoreError Unit)

/-- What `n` callers share. -/
structure Shared (n : Nat) where
  /-- The tables that everyone sees. -/
  committed : Database
  /-- The callers that have committed, in this order. -/
  commits : List (Fin n)
  /-- The caller that writes. -/
  lock : Option (Fin n)

section Act

variable {n : Nat}

/-- A caller carries out the next statement that it has left, or commits. -/
def write (i : Fin n) (shared : Shared n) (mine : Database) : List Statement → Progress × Shared n
  | [] => (.finished (.ok ()), ⟨mine, shared.commits ++ [i], none⟩)
  | s :: rest =>
    match s mine with
    | .ok mine => (.writing mine rest, { shared with lock := some i })
    | .error e => (.finished (.error e), { shared with lock := none })

/-- One step of a caller. -/
def act (t : Transaction) (i : Fin n) (shared : Shared n) : Progress → Progress × Shared n
  | .ready => (.begun, shared)
  | .begun =>
    match t.check shared.committed with
    | .ok seen => (.checked seen shared.commits.length, shared)
    | .error e => (.finished (.error e), shared)
  | .checked seen position =>
    if shared.lock.isSome then (.finished (.error (.ofLockCode busy)), shared)
    else if position < shared.commits.length then
      (.finished (.error (.ofLockCode busySnapshot)), shared)
    else write i shared seen (t.first :: t.rest)
  | .writing mine rest => write i shared mine rest
  | .finished outcome => (.finished outcome, shared)

end Act

/-- `n` callers at work on one store. -/
structure Callers (n : Nat) where
  shared : Shared n
  progress : Fin n → Progress

namespace Callers

variable {n : Nat}

/-- Nobody has begun. -/
def start (db : Database) : Callers n where
  shared := ⟨db, [], none⟩
  progress _ := .ready

/-- One step of one caller. -/
def step (calls : Fin n → Transaction) (s : Callers n) (i : Fin n) : Callers n where
  shared := (act (calls i) i s.shared (s.progress i)).2
  progress := Function.update s.progress i (act (calls i) i s.shared (s.progress i)).1

/-- The steps of a schedule, which names the caller of each. -/
def run (calls : Fin n → Transaction) (schedule : List (Fin n)) (s : Callers n) : Callers n :=
  schedule.foldl (step calls) s

/-- Every caller has an outcome. -/
def AllFinished (s : Callers n) : Prop :=
  ∀ i, ∃ outcome, s.progress i = .finished outcome

end Callers

end Store
end Gatehouse
