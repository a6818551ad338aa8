import Gatehouse.Log
import Gatehouse.Store.Database

/-!
# Calls

A call of the service works on the tables and on the state of a key protector, emits log events,
and ends with a value or with a failure. What it has written or emitted before a failure stays,
except that a transaction which fails leaves the tables as they were. The lemmas at the end say what
each kind of call does when it is run.
-/

namespace Gatehouse

/-- What a call finds and what it leaves behind. -/
structure World (σ : Type) where
  tables : Database
  /-- The state of the key protector. -/
  protector : σ
  /-- The events so far, oldest first. -/
  log : List Log.Event := []

/-- A call that ends with an `α` or fails with an `ε`. -/
def Call (σ ε α : Type) : Type :=
  World σ → Except ε α × World σ

namespace Call

variable {σ ε α β : Type}

/-- The outcome of a call and the world after it. -/
def run (c : Call σ ε α) (w : World σ) : Except ε α × World σ := c w

/-- The call that ends with a value at once. -/
protected def pure (a : α) : Call σ ε α := fun w => (.ok a, w)

/-- The call that fails at once. -/
def fail (e : ε) : Call σ ε α := fun w => (.error e, w)

/-- One call after the other. -/
protected def bind (c : Call σ ε α) (f : α → Call σ ε β) : Call σ ε β := fun w =>
  match c w with
  | (.ok a, w) => f a w
  | (.error e, w) => (.error e, w)

instance : Monad (Call σ ε) where
  pure := Call.pure
  bind := Call.bind

/-- The call that ends as a plain result says. -/
def ofExcept (r : Except ε α) : Call σ ε α := fun w => (r, w)

/-- A call with its failures put in other words. -/
def mapError {ε' : Type} (f : ε → ε') (c : Call σ ε α) : Call σ ε' α := fun w =>
  match c w with
  | (.ok a, w) => (.ok a, w)
  | (.error e, w) => (.error (f e), w)

/-- A call whose failure is a value. -/
def attempt {ε' : Type} (c : Call σ ε α) : Call σ ε' (Except ε α) := fun w =>
  match c w with
  | (r, w) => (.ok r, w)

/-- A call that emits events about its failure. -/
def telling (tell : ε → List Log.Event) (c : Call σ ε α) : Call σ ε α := fun w =>
  match c w with
  | (.ok a, w) => (.ok a, w)
  | (.error e, w) => (.error e, { w with log := w.log ++ tell e })

/-- Emits an event. -/
def emit (e : Log.Event) : Call σ ε Unit := fun w =>
  (.ok (), { w with log := w.log ++ [e] })

/-- A call inside a span: the span encloses each event that the call emits. -/
def inSpan (s : Log.Span) (c : Call σ ε α) : Call σ ε α := fun w =>
  match c { w with log := [] } with
  | (r, after) => (r, { after with log := w.log ++ after.log.map (·.within s) })

/-- Reads the tables. -/
def query (f : Database → Except ε α) : Call σ ε α := fun w => (f w.tables, w)

/-- Changes the tables in one transaction: if it fails they stay as they are. -/
def transact (f : Database → Except ε Database) : Call σ ε Unit := fun w =>
  match f w.tables with
  | .ok db => (.ok (), { w with tables := db })
  | .error e => (.error e, w)

/-- Uses the key protector. -/
def protect (f : σ → Except ε α × σ) : Call σ ε α := fun w =>
  match f w.protector with
  | (r, s) => (r, { w with protector := s })

/-! ## Running -/

@[simp] theorem run_pure (a : α) (w : World σ) : (pure a : Call σ ε α).run w = (.ok a, w) := rfl

@[simp] theorem run_fail (e : ε) (w : World σ) : (fail e : Call σ ε α).run w = (.error e, w) := rfl

theorem run_bind (c : Call σ ε α) (f : α → Call σ ε β) (w : World σ) :
    (c >>= f).run w = match c.run w with
      | (.ok a, w) => (f a).run w
      | (.error e, w) => (.error e, w) := rfl

theorem run_bind_of_ok {c : Call σ ε α} {w w' : World σ} {a : α} (h : c.run w = (.ok a, w'))
    (f : α → Call σ ε β) : (c >>= f).run w = (f a).run w' := by
  simp [run_bind, h]

theorem run_bind_of_error {c : Call σ ε α} {w w' : World σ} {e : ε} (h : c.run w = (.error e, w'))
    (f : α → Call σ ε β) : (c >>= f).run w = (.error e, w') := by
  simp [run_bind, h]

@[simp] theorem run_ofExcept (r : Except ε α) (w : World σ) : (ofExcept r).run w = (r, w) := rfl

theorem run_mapError {ε' : Type} (f : ε → ε') (c : Call σ ε α) (w : World σ) :
    (c.mapError f).run w = ((c.run w).1.mapError f, (c.run w).2) := by
  simp only [mapError, run]
  rcases c w with ⟨_ | _, _⟩ <;> rfl

@[simp] theorem run_attempt {ε' : Type} (c : Call σ ε α) (w : World σ) :
    (c.attempt : Call σ ε' _).run w = (.ok (c.run w).1, (c.run w).2) := rfl

theorem run_telling_of_ok {tell : ε → List Log.Event} {c : Call σ ε α} {w w' : World σ} {a : α}
    (h : c.run w = (.ok a, w')) : (c.telling tell).run w = (.ok a, w') := by
  rw [run] at h
  rw [run, telling, h]

theorem run_telling_of_error {tell : ε → List Log.Event} {c : Call σ ε α} {w w' : World σ} {e : ε}
    (h : c.run w = (.error e, w')) :
    (c.telling tell).run w = (.error e, { w' with log := w'.log ++ tell e }) := by
  rw [run] at h
  rw [run, telling, h]

@[simp] theorem run_emit (e : Log.Event) (w : World σ) :
    (emit e : Call σ ε Unit).run w = (.ok (), { w with log := w.log ++ [e] }) := rfl

@[simp] theorem run_query (f : Database → Except ε α) (w : World σ) :
    (query f).run w = (f w.tables, w) := rfl

/-- A transaction changes the tables and nothing else if it succeeds. -/
theorem run_transact_of_ok {f : Database → Except ε Database} {w : World σ} {db : Database}
    (h : f w.tables = .ok db) : (transact f).run w = (.ok (), { w with tables := db }) := by
  simp [transact, run, h]

/-- A transaction changes nothing if it fails. -/
theorem run_transact_of_error {f : Database → Except ε Database} {w : World σ} {e : ε}
    (h : f w.tables = .error e) : (transact f).run w = (.error e, w) := by
  simp [transact, run, h]

/-- The key protector changes its own state and nothing else. -/
@[simp] theorem run_protect (f : σ → Except ε α × σ) (w : World σ) :
    (protect f).run w = ((f w.protector).1, { w with protector := (f w.protector).2 }) := rfl

instance : LawfulMonad (Call σ ε) :=
  .mk' _ (fun c => by
      funext w
      change Call.bind c (fun a => Call.pure a) w = c w
      unfold Call.bind Call.pure
      split <;> simp_all)
    (fun _ _ => rfl)
    (fun c f g => by
      funext w
      change Call.bind (Call.bind c f) g w = Call.bind c (fun a => Call.bind (f a) g) w
      unfold Call.bind
      split <;> simp_all <;> split <;> simp_all)

end Call
end Gatehouse
