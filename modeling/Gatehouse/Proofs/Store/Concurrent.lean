import Gatehouse.Proofs.Store.Reachable
import Gatehouse.Store.Concurrent
import Mathlib.Data.List.Induction
import Mathlib.Data.List.Nodup

/-!
# Interleaved transactions are serial

Whatever the schedule, the committed tables are what the transactions that have committed leave when
they run one after the other in the order of their commits. A caller that has failed was refused the
lock, or fails in the same way after some of those commits. So the only anomaly of reading before
writing, a reading that others have made untrue, ends in a refusal.

What carries the proof is that a caller with the lock works on what is committed, since nobody else
can commit until it has finished.
-/

namespace Gatehouse.Store

section Step

variable {n : Nat} {calls : Fin n → Transaction} {db₀ : Database} {shared : Shared n} {i j : Fin n}

/-! ## What is known of a caller -/

/-- The statements of some callers' transactions, one transaction after the other. -/
def ran (calls : Fin n → Transaction) (past : List (Fin n)) : List Statement :=
  past.flatMap fun i => (calls i).statements

/-- A caller has neither committed nor the lock. -/
structure Idle (shared : Shared n) (i : Fin n) : Prop where
  uncommitted : i ∉ shared.commits
  unlocked : shared.lock ≠ some i

/-- A transaction fails when it runs after some of the commits. -/
def Fails (calls : Fin n → Transaction) (db₀ : Database) (commits : List (Fin n)) (i : Fin n)
    (e : StoreError) : Prop :=
  ∃ past db, past <+: commits ∧ Statement.all (ran calls past) db₀ = .ok db ∧
    Statement.all (calls i).statements db = .error e

/-- What is known of a caller that has come so far. -/
inductive Sound (calls : Fin n → Transaction) (db₀ : Database) (shared : Shared n) (i : Fin n) :
    Progress → Prop where
  | ready (h : Idle shared i) : Sound calls db₀ shared i .ready
  | begun (h : Idle shared i) : Sound calls db₀ shared i .begun
  /-- What it has read is true until somebody commits. -/
  | checked {seen : Database} {position : Nat} (h : Idle shared i)
      (hposition : position ≤ shared.commits.length)
      (hseen : position = shared.commits.length →
        (calls i).check shared.committed = .ok seen) :
      Sound calls db₀ shared i (.checked seen position)
  /-- It has carried out its first statements on what is committed. -/
  | writing {mine : Database} {done rest : List Statement} (hnew : i ∉ shared.commits)
      (hlock : shared.lock = some i) (hsplit : (calls i).statements = done ++ rest)
      (hdone : Statement.all done shared.committed = .ok mine) :
      Sound calls db₀ shared i (.writing mine rest)
  | committed (hmem : i ∈ shared.commits) (hlock : shared.lock ≠ some i) :
      Sound calls db₀ shared i (.finished (.ok ()))
  | conflict (h : Idle shared i) {detail : String} :
      Sound calls db₀ shared i (.finished (.error (.conflict detail)))
  | failed (h : Idle shared i) {e : StoreError} (he : Fails calls db₀ shared.commits i e) :
      Sound calls db₀ shared i (.finished (.error e))

/-- The committed tables are those that the commits leave one after the other, and nobody has
committed twice. -/
structure Serial (calls : Fin n → Transaction) (db₀ : Database) (shared : Shared n) : Prop where
  committed : Statement.all (ran calls shared.commits) db₀ = .ok shared.committed
  nodup : shared.commits.Nodup

/-! ## What one caller does to the others -/

/-- What a step of a caller does to what all share: nothing; or it takes the lock or gives it up,
which is free or its own; or it commits. -/
inductive Moves (i : Fin n) (shared : Shared n) : Shared n → Prop where
  | stays : Moves i shared shared
  | locks {lock : Option (Fin n)} (hbefore : shared.lock = none ∨ shared.lock = some i)
      (hafter : lock = none ∨ lock = some i) : Moves i shared { shared with lock }
  | commits {db : Database} (hbefore : shared.lock = none ∨ shared.lock = some i) :
      Moves i shared ⟨db, shared.commits ++ [i], none⟩

/-- A caller does not have a lock that is free or another's. -/
theorem ne_some_of_free {lock : Option (Fin n)} (h : lock = none ∨ lock = some i) (hne : j ≠ i) :
    lock ≠ some j := by
  rintro rfl
  rcases h with h | h
  · cases h
  · exact hne (Option.some.inj h)

theorem Idle.of_moves {shared' : Shared n} (h : Idle shared j) (hmoves : Moves i shared shared')
    (hne : j ≠ i) : Idle shared' j := by
  cases hmoves with
  | stays => exact h
  | locks hbefore hafter => exact ⟨h.uncommitted, ne_some_of_free hafter hne⟩
  | commits hbefore =>
    refine ⟨?_, nofun⟩
    intro hmem
    rcases List.mem_append.1 hmem with hmem | hmem
    · exact h.uncommitted hmem
    · exact hne (List.mem_singleton.1 hmem)

theorem commits_prefix_of_moves {shared' : Shared n} (h : Moves i shared shared') :
    shared.commits <+: shared'.commits := by
  cases h with
  | stays => exact List.prefix_refl _
  | locks => exact List.prefix_refl _
  | commits => exact List.prefix_append _ _

/-- What is known of a caller stays known while another one goes on. -/
theorem Sound.of_moves {shared' : Shared n} {p : Progress} (h : Sound calls db₀ shared j p)
    (hmoves : Moves i shared shared') (hne : j ≠ i) : Sound calls db₀ shared' j p := by
  have hgrows := commits_prefix_of_moves hmoves
  cases h with
  | ready h => exact .ready (h.of_moves hmoves hne)
  | begun h => exact .begun (h.of_moves hmoves hne)
  | checked h hposition hseen =>
    refine .checked (h.of_moves hmoves hne) (Nat.le_trans hposition hgrows.length_le) ?_
    cases hmoves with
    | stays => exact hseen
    | locks => exact hseen
    | commits =>
      -- After a commit the reading is out of date, and nothing is said about it.
      intro hlength
      rw [List.length_append, List.length_singleton] at hlength
      omega
  | writing hnew hlock hsplit hdone =>
    -- The lock is this caller's, so the other one can have done nothing to what is shared.
    cases hmoves with
    | stays => exact .writing hnew hlock hsplit hdone
    | locks hbefore => exact absurd hlock (ne_some_of_free hbefore hne)
    | commits hbefore => exact absurd hlock (ne_some_of_free hbefore hne)
  | committed hmem hlock =>
    refine .committed (hgrows.subset hmem) ?_
    cases hmoves with
    | stays => exact hlock
    | locks _ hafter => exact ne_some_of_free hafter hne
    | commits => exact nofun
  | conflict h => exact .conflict (h.of_moves hmoves hne)
  | failed h he =>
    obtain ⟨past, db, hpast, hdb, hfails⟩ := he
    exact .failed (h.of_moves hmoves hne) ⟨past, db, hpast.trans hgrows, hdb, hfails⟩

/-! ## What one caller does -/

/-- The check is the first statement, and none is before it. -/
theorem Transaction.statements_eq (t : Transaction) :
    t.statements = [] ++ t.check :: t.first :: t.rest := rfl

theorem ran_concat (past : List (Fin n)) (i : Fin n) :
    ran calls (past ++ [i]) = ran calls past ++ (calls i).statements := by
  rw [ran, ran, List.flatMap_append, List.flatMap_singleton]

/-- A transaction one of whose statements fails on what is committed fails after all the commits. -/
theorem Serial.fails (hserial : Serial calls db₀ shared) {done rest : List Statement}
    {s : Statement} {mine : Database} {e : StoreError}
    (hsplit : (calls i).statements = done ++ s :: rest)
    (hdone : Statement.all done shared.committed = .ok mine) (hs : s mine = .error e) :
    Fails calls db₀ shared.commits i e := by
  refine ⟨shared.commits, shared.committed, List.prefix_refl _, hserial.committed, ?_⟩
  exact Statement.all_eq_error_iff.2 ⟨done, s, rest, mine, hsplit, hdone, hs⟩

/-- The result of a step is sound: the commits are still serial, the caller is where it should be,
and nothing else has been done to what all share. -/
structure Good (calls : Fin n → Transaction) (db₀ : Database) (shared : Shared n) (i : Fin n)
    (next : Progress × Shared n) : Prop where
  serial : Serial calls db₀ next.2
  sound : Sound calls db₀ next.2 i next.1
  moves : Moves i shared next.2

theorem good_write {mine : Database} {done rest : List Statement}
    (hserial : Serial calls db₀ shared) (hnew : i ∉ shared.commits)
    (hlock : shared.lock = none ∨ shared.lock = some i)
    (hsplit : (calls i).statements = done ++ rest)
    (hdone : Statement.all done shared.committed = .ok mine) :
    Good calls db₀ shared i (write i shared mine rest) := by
  cases rest with
  | nil =>
    -- Nothing is left, so its statements have been carried out on what all others have committed.
    rw [List.append_nil] at hsplit
    refine ⟨⟨?_, ?_⟩, .committed (List.mem_append_right _ (List.mem_singleton.2 rfl)) nofun,
      .commits hlock⟩
    · show Statement.all (ran calls (shared.commits ++ [i])) db₀ = .ok mine
      rw [ran_concat, Statement.all_append_of_ok hserial.committed, hsplit, hdone]
    · show (shared.commits ++ [i]).Nodup
      refine List.Nodup.append hserial.nodup (List.nodup_singleton i) ?_
      intro k hk hk'
      exact hnew (List.mem_singleton.1 hk' ▸ hk)
  | cons s rest =>
    rw [write]
    cases hs : s mine with
    | ok mine' =>
      have hdone' : Statement.all (done ++ [s]) shared.committed = .ok mine' := by
        rw [Statement.all_append_of_ok hdone, Statement.all_singleton_eq_ok_iff.2 hs]
      have hsplit' : (calls i).statements = (done ++ [s]) ++ rest := by
        rw [hsplit, List.append_assoc, List.singleton_append]
      exact ⟨⟨hserial.committed, hserial.nodup⟩, .writing hnew rfl hsplit' hdone',
        .locks hlock (.inr rfl)⟩
    | error e =>
      have hidle : Idle { shared with lock := none } i := ⟨hnew, nofun⟩
      have hfails := hserial.fails hsplit hdone hs
      exact ⟨⟨hserial.committed, hserial.nodup⟩, .failed hidle hfails, .locks hlock (.inl rfl)⟩

theorem good_act {p : Progress} (hserial : Serial calls db₀ shared)
    (h : Sound calls db₀ shared i p) : Good calls db₀ shared i (act (calls i) i shared p) := by
  cases h with
  | ready h => exact ⟨hserial, .begun h, .stays⟩
  | begun h =>
    rw [act]
    cases hcheck : (calls i).check shared.committed with
    | ok seen =>
      obtain rfl := (calls i).check_reads _ _ hcheck
      exact ⟨hserial, .checked h (Nat.le_refl _) fun _ => hcheck, .stays⟩
    | error e =>
      have hfails := hserial.fails (calls i).statements_eq rfl hcheck
      exact ⟨hserial, .failed h hfails, .stays⟩
  | @checked seen position h hposition hseen =>
    rw [act]
    by_cases hlock : shared.lock.isSome = true
    · rw [if_pos hlock]
      exact ⟨hserial, .conflict h, .stays⟩
    · rw [if_neg hlock]
      by_cases hstale : position < shared.commits.length
      · rw [if_pos hstale]
        exact ⟨hserial, .conflict h, .stays⟩
      · -- Nothing has been committed since it read, so it has read what is committed.
        rw [if_neg hstale]
        have hfree : shared.lock = none := by
          rwa [Bool.not_eq_true, Option.isSome_eq_false_iff, Option.isNone_iff_eq_none] at hlock
        have hcheck := hseen (by omega)
        exact good_write hserial h.uncommitted (.inl hfree) rfl
          (Statement.all_singleton_eq_ok_iff.2 hcheck)
  | writing hnew hlock hsplit hdone => exact good_write hserial hnew (.inr hlock) hsplit hdone
  | committed hmem hlock => exact ⟨hserial, .committed hmem hlock, .stays⟩
  | conflict h => exact ⟨hserial, .conflict h, .stays⟩
  | failed h he => exact ⟨hserial, .failed h he, .stays⟩

end Step

/-! ## Schedules -/

namespace Callers

variable {n : Nat} {calls : Fin n → Transaction} {db₀ : Database} {s : Callers n}

theorem progress_step_self (s : Callers n) (i : Fin n) :
    (s.step calls i).progress i = (act (calls i) i s.shared (s.progress i)).1 :=
  Function.update_self ..

theorem progress_step_of_ne {i j : Fin n} (h : j ≠ i) :
    (s.step calls i).progress j = s.progress j :=
  Function.update_of_ne h ..

/-- The commits are serial, and every caller is where it should be. -/
structure Inv (calls : Fin n → Transaction) (db₀ : Database) (s : Callers n) : Prop where
  serial : Serial calls db₀ s.shared
  sound : ∀ i, Sound calls db₀ s.shared i (s.progress i)

theorem inv_start : Inv calls db₀ (start db₀ : Callers n) where
  serial := ⟨rfl, List.nodup_nil⟩
  sound _ := .ready ⟨List.not_mem_nil, nofun⟩

theorem Inv.step (h : Inv calls db₀ s) (i : Fin n) : Inv calls db₀ (s.step calls i) := by
  have hgood := good_act h.serial (h.sound i)
  refine ⟨hgood.serial, fun j => ?_⟩
  -- The caller that was stepped is where its step has led, and the others are where they were.
  by_cases hj : j = i
  · subst hj
    rw [progress_step_self]
    exact hgood.sound
  · rw [progress_step_of_ne hj]
    exact (h.sound j).of_moves hgood.moves hj

/-- By induction on the schedule: whoever is stepped next, the step keeps the invariant. -/
theorem Inv.run (h : Inv calls db₀ s) (schedule : List (Fin n)) :
    Inv calls db₀ (s.run calls schedule) := by
  induction schedule generalizing s with
  | nil => exact h
  | cons i schedule ih => exact ih (h.step i)

theorem inv_run (calls : Fin n → Transaction) (db₀ : Database) (schedule : List (Fin n)) :
    Inv calls db₀ ((start db₀).run calls schedule) :=
  inv_start.run schedule

/-- Once every caller has an outcome, nobody has the lock. -/
theorem Inv.lock_eq_none (h : Inv calls db₀ s) (hall : s.AllFinished) : s.shared.lock = none := by
  rw [Option.eq_none_iff_forall_ne_some]
  intro i hlock
  have hsound := h.sound i
  obtain ⟨outcome, hfinished⟩ := hall i
  rw [hfinished] at hsound
  cases hsound with
  | committed _ hfree => exact hfree hlock
  | conflict hidle => exact hidle.unlocked hlock
  | failed hidle => exact hidle.unlocked hlock

theorem Inv.finished_of_mem (h : Inv calls db₀ s) {i : Fin n} (hmem : i ∈ s.shared.commits) :
    s.progress i = .finished (.ok ()) := by
  have hsound := h.sound i
  generalize s.progress i = p at hsound
  cases hsound with
  | ready hidle => exact absurd hmem hidle.uncommitted
  | begun hidle => exact absurd hmem hidle.uncommitted
  | checked hidle => exact absurd hmem hidle.uncommitted
  | writing hnew => exact absurd hmem hnew
  | committed => rfl
  | conflict hidle => exact absurd hmem hidle.uncommitted
  | failed hidle => exact absurd hmem hidle.uncommitted

/-- A caller that has finished without a commit was refused, or fails after some of the commits. -/
theorem Inv.outcome_of_not_mem (h : Inv calls db₀ s) {i : Fin n} (hnew : i ∉ s.shared.commits)
    {outcome : Except StoreError Unit} (hfinished : s.progress i = .finished outcome) :
    ∃ e, outcome = .error e ∧
      ((∃ detail, e = .conflict detail) ∨ Fails calls db₀ s.shared.commits i e) := by
  have hsound := h.sound i
  rw [hfinished] at hsound
  cases hsound with
  | committed hmem => exact absurd hmem hnew
  | @conflict _ detail => exact ⟨_, rfl, .inl ⟨detail, rfl⟩⟩
  | failed _ he => exact ⟨_, rfl, .inr he⟩

/-- **Interleaved transactions are serial.** Whatever the schedule, the tables are those that the
transactions of some callers leave one after the other. These callers have succeeded. Any other that
has finished was refused the lock, or it fails in the same way after the first few of them. -/
theorem serializable (calls : Fin n → Transaction) (db₀ : Database) (schedule : List (Fin n)) :
    ∃ order : List (Fin n), order.Nodup ∧
      Statement.all (ran calls order) db₀ =
        .ok ((start db₀).run calls schedule).shared.committed ∧
      (∀ i ∈ order, ((start db₀).run calls schedule).progress i = .finished (.ok ())) ∧
      ∀ i outcome, i ∉ order →
        ((start db₀).run calls schedule).progress i = .finished outcome →
        ∃ e, outcome = .error e ∧ ((∃ detail, e = .conflict detail) ∨ Fails calls db₀ order i e) := by
  have hinv := inv_run calls db₀ schedule
  refine ⟨_, hinv.serial.nodup, hinv.serial.committed, ?_, ?_⟩
  · intro i hmem
    exact hinv.finished_of_mem hmem
  · intro i outcome hnew hfinished
    exact hinv.outcome_of_not_mem hnew hfinished

/-! ## A caller alone -/

section Alone

variable (calls)

/-- What a caller is told about the result of its statements. -/
def told (r : Except StoreError Database) : Except StoreError Unit :=
  r.map fun _ => ()

theorem run_cons (i : Fin n) (schedule : List (Fin n)) (s : Callers n) :
    s.run calls (i :: schedule) = (s.step calls i).run calls schedule := rfl

/-- A caller that has finished does nothing more. -/
theorem run_replicate_of_finished {i : Fin n} {outcome : Except StoreError Unit}
    (h : s.progress i = .finished outcome) (k : Nat) :
    (s.run calls (List.replicate k i)).progress i = .finished outcome ∧
      (s.run calls (List.replicate k i)).shared = s.shared := by
  induction k generalizing s with
  | zero => exact ⟨h, rfl⟩
  | succ k ih =>
    have hprogress : (s.step calls i).progress i = .finished outcome := by
      rw [progress_step_self, h]
      rfl
    have hshared : (s.step calls i).shared = s.shared := by
      rw [step, h]
      rfl
    rw [List.replicate_succ, run_cons]
    exact hshared ▸ ih hprogress

/-- A caller that goes on without interruption carries out all that it has left to write. -/
theorem run_replicate_of_write {i : Fin n} {shared : Shared n} {mine : Database}
    {rest : List Statement} (hprogress : s.progress i = (write i shared mine rest).1)
    (hshared : s.shared = (write i shared mine rest).2) {k : Nat} (hk : rest.length ≤ k) :
    (s.run calls (List.replicate k i)).progress i = .finished (told (Statement.all rest mine)) ∧
      (s.run calls (List.replicate k i)).shared.committed =
        (Statement.all rest mine).toOption.getD shared.committed := by
  -- The claim is about the result of a write, so that it covers the first one, which takes the lock,
  -- and those that follow under the lock.
  induction rest generalizing s shared mine k with
  | nil =>
    obtain ⟨hend, hsame⟩ := run_replicate_of_finished calls hprogress k
    rw [hend, hsame, hshared]
    exact ⟨rfl, rfl⟩
  | cons w ws ih =>
    rw [write] at hprogress hshared
    cases hw : w mine with
    | error e =>
      rw [hw] at hprogress hshared
      obtain ⟨hend, hsame⟩ := run_replicate_of_finished calls hprogress k
      rw [hend, hsame, hshared, Statement.all_cons, hw]
      exact ⟨rfl, rfl⟩
    | ok mine' =>
      rw [hw] at hprogress hshared
      dsimp only at hprogress hshared
      obtain ⟨k, rfl⟩ : ∃ k', k = k' + 1 := ⟨k - 1, by simp at hk; omega⟩
      -- The next step starts from the lock, so it is the writing of what is left.
      have hnext : (s.step calls i).progress i = (write i s.shared mine' ws).1 := by
        rw [progress_step_self, hprogress]
        rfl
      have hnext' : (s.step calls i).shared = (write i s.shared mine' ws).2 := by
        rw [step, hprogress]
        rfl
      have hlength : ws.length ≤ k := by
        simpa using hk
      have hcommitted : s.shared.committed = shared.committed := by
        rw [hshared]
      rw [List.replicate_succ, run_cons, Statement.all_cons, hw, ← hcommitted]
      exact ih hnext hnext' hlength

/-- A caller that nobody interrupts ends as its statements do, and leaves what they leave. -/
theorem run_replicate_of_ready {i : Fin n} (hready : s.progress i = .ready)
    (hfree : s.shared.lock = none) {k : Nat} (hk : (calls i).rest.length + 4 ≤ k) :
    (s.run calls (List.replicate k i)).progress i =
        .finished (told (Statement.all (calls i).statements s.shared.committed)) ∧
      (s.run calls (List.replicate k i)).shared.committed =
        afterAll (calls i).statements s.shared.committed := by
  obtain ⟨k, rfl⟩ : ∃ k', k = k' + 3 := ⟨k - 3, by omega⟩
  have hafter : afterAll (calls i).statements s.shared.committed =
      (Statement.all (calls i).statements s.shared.committed).toOption.getD s.shared.committed := by
    rw [afterAll]
    cases Statement.all (calls i).statements s.shared.committed <;> rfl
  -- The first step begins the transaction, the second one reads.
  set s₁ := s.step calls i with hs₁
  have hprogress₁ : s₁.progress i = .begun := by
    rw [hs₁, progress_step_self, hready]
    rfl
  have hshared₁ : s₁.shared = s.shared := by
    rw [hs₁, step, hready]
    rfl
  set s₂ := s₁.step calls i with hs₂
  rw [hafter, Transaction.statements, Statement.all_cons]
  rw [List.replicate_succ, run_cons, List.replicate_succ, run_cons, ← hs₁, ← hs₂]
  cases hcheck : (calls i).check s.shared.committed with
  | error e =>
    have hprogress₂ : s₂.progress i = .finished (.error e) := by
      rw [hs₂, progress_step_self, hprogress₁, hshared₁, act, hcheck]
    have hshared₂ : s₂.shared = s.shared := by
      rw [hs₂, step, hprogress₁, hshared₁, act, hcheck]
    obtain ⟨hend, hsame⟩ := run_replicate_of_finished calls hprogress₂ (k + 1)
    rw [hend, hsame, hshared₂]
    exact ⟨rfl, rfl⟩
  | ok seen =>
    have hprogress₂ : s₂.progress i = .checked seen s.shared.commits.length := by
      rw [hs₂, progress_step_self, hprogress₁, hshared₁, act, hcheck]
    have hshared₂ : s₂.shared = s.shared := by
      rw [hs₂, step, hprogress₁, hshared₁, act, hcheck]
    -- The third one takes the lock, which is free, for a reading that nobody has made untrue.
    have hact : act (calls i) i s₂.shared (s₂.progress i) =
        write i s.shared seen ((calls i).first :: (calls i).rest) := by
      rw [hprogress₂, hshared₂, act, hfree]
      exact if_neg (Nat.lt_irrefl _)
    have hprogress₃ : (s₂.step calls i).progress i =
        (write i s.shared seen ((calls i).first :: (calls i).rest)).1 := by
      rw [progress_step_self, hact]
    have hshared₃ : (s₂.step calls i).shared =
        (write i s.shared seen ((calls i).first :: (calls i).rest)).2 := by
      rw [step, hact]
    rw [List.replicate_succ, run_cons]
    refine run_replicate_of_write calls hprogress₃ hshared₃ ?_
    rw [List.length_cons]
    omega

end Alone

/-! ## Somebody gets through -/

section Underway

variable {shared : Shared n} {i : Fin n}

/-- Somebody has committed, or may still. -/
def Underway (shared : Shared n) : Prop :=
  shared.commits ≠ [] ∨ shared.lock ≠ none

/-- Before the first commit no transaction fails that would succeed alone. -/
theorem commits_ne_nil_of_fails (hall : ∃ db, Statement.all (calls i).statements db₀ = .ok db)
    {commits : List (Fin n)} {e : StoreError} (h : Fails calls db₀ commits i e) :
    commits ≠ [] := by
  rintro rfl
  obtain ⟨past, db, hpast, hdb, hfails⟩ := h
  obtain rfl := List.prefix_nil.1 hpast
  obtain rfl : db₀ = db := Except.ok.inj hdb
  obtain ⟨db', hok⟩ := hall
  rw [hok] at hfails
  cases hfails

theorem underway_write {mine : Database} {done rest : List Statement}
    (hall : ∃ db, Statement.all (calls i).statements db₀ = .ok db)
    (hserial : Serial calls db₀ shared) (hsplit : (calls i).statements = done ++ rest)
    (hdone : Statement.all done shared.committed = .ok mine) :
    Underway (write i shared mine rest).2 := by
  cases rest with
  | nil => exact .inl (by simp [write])
  | cons s rest =>
    rw [write]
    cases hs : s mine with
    | ok mine' => exact .inr nofun
    | error e => exact .inl (commits_ne_nil_of_fails hall (hserial.fails hsplit hdone hs))

/-- A step does not leave the store without a commit or a writer, if there was one or if the step
is the last of its caller. -/
theorem underway_act {p : Progress}
    (hall : ∃ db, Statement.all (calls i).statements db₀ = .ok db)
    (hserial : Serial calls db₀ shared) (h : Sound calls db₀ shared i p)
    (hunderway : Underway shared ∨ ∃ outcome, (act (calls i) i shared p).1 = .finished outcome)
    (hearlier : ∀ outcome, p = .finished outcome → Underway shared) :
    Underway (act (calls i) i shared p).2 := by
  cases h with
  | ready h =>
    rcases hunderway with hunderway | ⟨outcome, houtcome⟩
    · exact hunderway
    · cases houtcome
  | begun h =>
    rw [act] at hunderway ⊢
    cases hcheck : (calls i).check shared.committed with
    | ok seen =>
      rw [hcheck] at hunderway
      rcases hunderway with hunderway | ⟨outcome, houtcome⟩
      · exact hunderway
      · cases houtcome
    | error e =>
      have hfails := hserial.fails (calls i).statements_eq rfl hcheck
      exact .inl (commits_ne_nil_of_fails hall hfails)
  | @checked seen position h hposition hseen =>
    rw [act]
    by_cases hlock : shared.lock.isSome = true
    · rw [if_pos hlock]
      exact .inr (Option.isSome_iff_ne_none.1 hlock)
    · rw [if_neg hlock]
      by_cases hstale : position < shared.commits.length
      · rw [if_pos hstale]
        have hpos : 0 < shared.commits.length := by omega
        exact .inl (List.ne_nil_of_length_pos hpos)
      · rw [if_neg hstale]
        have hcheck := hseen (by omega)
        exact underway_write hall hserial rfl (Statement.all_singleton_eq_ok_iff.2 hcheck)
  | writing hnew hlock hsplit hdone => exact underway_write hall hserial hsplit hdone
  | committed hmem hlock => exact hearlier _ rfl
  | conflict h => exact hearlier _ rfl
  | failed h he => exact hearlier _ rfl

end Underway

/-- Where every transaction would succeed alone, a caller has finished only if somebody has
committed or is about to. -/
theorem underway_run (hall : ∀ i, ∃ db, Statement.all (calls i).statements db₀ = .ok db)
    (schedule : List (Fin n)) {i : Fin n} {outcome : Except StoreError Unit}
    (h : ((start db₀).run calls schedule).progress i = .finished outcome) :
    Underway ((start db₀).run calls schedule).shared := by
  -- By induction on the schedule from its end, since the last step is the one to look at.
  induction schedule using List.reverseRecOn generalizing i outcome with
  | nil => cases h
  | append_singleton schedule k ih =>
    have hinv := inv_run calls db₀ schedule
    rw [run, List.foldl_append] at h ⊢
    change (((start db₀).run calls schedule).step calls k).progress i = _ at h
    refine underway_act (hall k) hinv.serial (hinv.sound k) ?_ fun _ hk => ih hk
    by_cases hi : i = k
    · subst hi
      rw [progress_step_self] at h
      exact .inr ⟨outcome, h⟩
    · rw [progress_step_of_ne hi] at h
      exact .inl (ih h)

/-- Where every transaction would succeed alone and all callers have finished, somebody has
committed. -/
theorem commits_ne_nil (hn : 0 < n)
    (hall : ∀ i, ∃ db, Statement.all (calls i).statements db₀ = .ok db) {schedule : List (Fin n)}
    (hfinished : ((start db₀).run calls schedule).AllFinished) :
    ((start db₀).run calls schedule).shared.commits ≠ [] := by
  obtain ⟨outcome, houtcome⟩ := hfinished ⟨0, hn⟩
  rcases underway_run hall schedule houtcome with hcommits | hlock
  · exact hcommits
  · exact absurd ((inv_run calls db₀ schedule).lock_eq_none hfinished) hlock

end Callers

end Gatehouse.Store
