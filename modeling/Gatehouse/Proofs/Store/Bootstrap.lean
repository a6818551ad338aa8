import Gatehouse.Proofs.Store.Concurrent
import Gatehouse.Proofs.Store.Invariant

/-!
# Bootstrapping once

However many callers bootstrap a new store and however their transactions interleave, one console is
committed. The count of the projects alone would not give this, since several callers can count none
before the first of them writes. They are told apart by the lock: it goes to a caller whose count is
still true, so who comes second is refused or counts one.
-/

namespace Gatehouse

/-- The bootstrap as a transaction that counts the projects first. -/
def NewConsoleProject.transaction (p : NewConsoleProject) : Store.Transaction where
  check := noProjects
  first := .insertProject p.projectRow
  rest := p.statements.drop 2
  check_reads _ _ h := (noProjects_eq_ok_iff.1 h).2.2.2

namespace Store

open Callers

section Rivals

variable {n : Nat} {requests : Fin n → NewConsoleProject} {db : Database}

/-- Callers that bootstrap one store, each with a request of its own. -/
def bootstraps (requests : Fin n → NewConsoleProject) (i : Fin n) : Transaction :=
  (requests i).transaction

/-- The transaction has the statements of the operation, in the same order. -/
theorem statements_bootstraps (requests : Fin n → NewConsoleProject) (i : Fin n) :
    (bootstraps requests i).statements = (requests i).statements := rfl

/-- A new store that callers have bootstrapped according to a schedule. -/
def bootstrapped (requests : Fin n → NewConsoleProject) (schedule : List (Fin n)) : Callers n :=
  (start .empty).run (bootstraps requests) schedule

/-- A caller that nobody interrupts ends as the operation does, and leaves the tables that it
leaves. -/
theorem run_bootstrap_alone {σ : Type} {s : Callers n} {i : Fin n} {w : World σ}
    (hready : s.progress i = .ready) (hfree : s.shared.lock = none)
    (htables : w.tables = s.shared.committed) :
    (s.run (bootstraps requests) (List.replicate 10 i)).progress i =
        .finished ((createConsoleProject (requests i)).run w).1 ∧
      (s.run (bootstraps requests) (List.replicate 10 i)).shared.committed =
        ((createConsoleProject (requests i)).run w).2.tables := by
  -- It takes ten steps: the beginning, the eight statements and the commit.
  obtain ⟨hprogress, hcommitted⟩ :=
    run_replicate_of_ready (bootstraps requests) hready hfree (Nat.le_refl 10)
  obtain ⟨houtcome, hafter⟩ := Command.run_call (.createConsoleProject (requests i)) w
  rw [statements_bootstraps, ← htables] at hprogress hcommitted
  rw [hprogress, hcommitted]
  have htold : told (Statement.all (requests i).statements w.tables) =
      ((createConsoleProject (requests i)).run w).1 := by
    refine Eq.trans ?_ houtcome.symm
    show _ = (Statement.all (requests i).statements w.tables >>= fun _ => .ok ())
    cases Statement.all (requests i).statements w.tables <;> rfl
  exact ⟨congrArg Progress.finished htold, hafter.symm⟩

/-! ## One commit -/

/-- Bootstraps that take place one after the other in a new store are one at most. -/
theorem ran_bootstraps {past : List (Fin n)}
    (h : Statement.all (ran (bootstraps requests) past) .empty = .ok db) :
    past = [] ∧ db = .empty ∨ ∃ i, past = [i] ∧ db = (requests i).tables := by
  rcases past with - | ⟨i, rest⟩
  · exact .inl ⟨rfl, (Except.ok.inj h).symm⟩
  · right
    rw [ran, List.flatMap_cons, Statement.all_append, Traversal.bind_eq_ok_iff] at h
    obtain ⟨mid, hmid, hrest⟩ := h
    rw [statements_bootstraps, (requests i).statements_empty, Statement.ite_ok_eq_ok_iff] at hmid
    obtain rfl := hmid.2
    rcases rest with - | ⟨j, rest⟩
    · exact ⟨i, rfl, (Except.ok.inj hrest).symm⟩
    · -- The second one would have to count no project where the first one has written its own.
      rw [List.flatMap_cons, Statement.all_append, Traversal.bind_eq_ok_iff] at hrest
      obtain ⟨next, hnext, -⟩ := hrest
      have hnone := (requests j).projects_eq_nil_of_statements hnext
      exact absurd hnone (List.cons_ne_nil _ _)

/-- Whatever the schedule, at most one project is committed. -/
theorem length_projects_run (requests : Fin n → NewConsoleProject) (schedule : List (Fin n)) :
    (bootstrapped requests schedule).shared.committed.projects.length ≤ 1 := by
  rw [bootstrapped]
  have hinv := inv_run (bootstraps requests) .empty schedule
  rcases ran_bootstraps hinv.serial.committed with ⟨-, hdb⟩ | ⟨i, -, hdb⟩
  · rw [hdb]
    exact Nat.zero_le 1
  · rw [hdb]
    exact Nat.le_refl 1

/-- A bootstrap that is not refused the lock, and fails all the same, has counted a project. -/
theorem preconditionFailed_of_fails
    (hkeys : ∀ i, (requests i).signingKey.projectId = (requests i).projectId)
    {commits : List (Fin n)} {i : Fin n} {e : StoreError}
    (h : Fails (bootstraps requests) .empty commits i e) :
    ∃ detail, e = .preconditionFailed detail := by
  obtain ⟨past, db, -, hdb, hfails⟩ := h
  rw [statements_bootstraps] at hfails
  rcases ran_bootstraps hdb with ⟨-, rfl⟩ | ⟨j, -, rfl⟩
  · -- In a new store nothing could fail.
    rw [(requests i).statements_empty, if_pos (hkeys i)] at hfails
    cases hfails
  · obtain ⟨detail, hcount⟩ : ∃ detail, NewConsoleProject.noProjects (requests j).tables =
        .error (.preconditionFailed detail) := ⟨_, rfl⟩
    rw [NewConsoleProject.statements, Statement.all_cons, hcount] at hfails
    exact ⟨detail, (Except.error.inj hfails).symm⟩

/-- The failures of a bootstrap that comes too late. -/
def Late (e : StoreError) : Prop :=
  (∃ detail, e = .preconditionFailed detail) ∨ (∃ detail, e = .alreadyExists detail) ∨
    ∃ detail, e = .conflict detail

/-- **Concurrent bootstraps commit once.** Callers bootstrap a new store, each with a key for its own
project, and their steps interleave in any way. At no time is a project committed beside another.
Once all callers have finished, one of them has succeeded, all others were too late, and the tables
are those that the request of the one leaves alone. The ids in the requests make no difference. -/
theorem bootstrap_commits_once (requests : Fin n → NewConsoleProject) (hn : 0 < n)
    (hkeys : ∀ i, (requests i).signingKey.projectId = (requests i).projectId)
    (schedule : List (Fin n)) :
    (∀ k, (bootstrapped requests (schedule.take k)).shared.committed.projects.length ≤ 1) ∧
      ((bootstrapped requests schedule).AllFinished → ∃ winner,
        (bootstrapped requests schedule).progress winner = .finished (.ok ()) ∧
        (∀ i, i ≠ winner → ∃ e,
          (bootstrapped requests schedule).progress i = .finished (.error e) ∧ Late e) ∧
        (bootstrapped requests schedule).shared.committed =
          (Command.createConsoleProject (requests winner)).after .empty) := by
  refine ⟨fun k => length_projects_run requests (schedule.take k), fun hfinished => ?_⟩
  have hinv : Inv (bootstraps requests) .empty (bootstrapped requests schedule) :=
    inv_run _ _ schedule
  have halone : ∀ i, Statement.all (bootstraps requests i).statements .empty =
      .ok (requests i).tables := by
    intro i
    rw [statements_bootstraps, (requests i).statements_empty, if_pos (hkeys i)]
  have hsome : (bootstrapped requests schedule).shared.commits ≠ [] :=
    commits_ne_nil hn (fun i => ⟨_, halone i⟩) hfinished
  rcases ran_bootstraps hinv.serial.committed with ⟨hnil, -⟩ | ⟨winner, hcommits, hdb⟩
  · exact absurd hnil hsome
  refine ⟨winner, ?_, ?_, ?_⟩
  · apply hinv.finished_of_mem
    rw [hcommits]
    exact List.mem_singleton.2 rfl
  · intro i hi
    obtain ⟨outcome, houtcome⟩ := hfinished i
    have hnew : i ∉ (bootstrapped requests schedule).shared.commits := by
      rw [hcommits]
      exact fun hmem => hi (List.mem_singleton.1 hmem)
    obtain ⟨e, rfl, hconflict | hfails⟩ := hinv.outcome_of_not_mem hnew houtcome
    · exact ⟨e, houtcome, .inr (.inr hconflict)⟩
    · exact ⟨e, houtcome, .inl (preconditionFailed_of_fails hkeys hfails)⟩
  · rw [hdb, Command.after_eq]
    exact (afterAll_of_ok (halone winner)).symm

end Rivals

/-- Two requests, with identifiers 1 to 4 and 11 to 14. -/
def rivals (i : Fin 2) : NewConsoleProject :=
  { sampleConsole with
    projectId := .ofNat (10 * i + 1)
    organizationId := .ofNat (10 * i + 2)
    owner := { sampleConsole.owner with id := .ofNat (10 * i + 3) }
    signingKey :=
      { sampleConsole.signingKey with id := .ofNat (10 * i + 4), projectId := .ofNat (10 * i + 1) } }

/-- Both callers count no project. Then the first one writes, the second one is refused the lock, and
the first one goes on to its commit. -/
def rivalSchedule : List (Fin 2) :=
  [0, 1, 0, 1, 0, 1, 0, 0, 0, 0, 0, 0, 0]

theorem allFinished_rivals :
    (bootstrapped rivals rivalSchedule).AllFinished := by
  intro i
  match i with
  | 0 => exact ⟨.ok (), rfl⟩
  | 1 => exact ⟨.error (.conflict "database is locked"), rfl⟩

/-- The first of the two callers wins, and the tables are those of its console. -/
theorem bootstrap_commits_once_rivals :
    (bootstrapped rivals rivalSchedule).progress 0 = .finished (.ok ()) ∧
      (∃ e, (bootstrapped rivals rivalSchedule).progress 1 = .finished (.error e) ∧ Late e) ∧
      (bootstrapped rivals rivalSchedule).shared.committed =
        (Command.createConsoleProject (rivals 0)).after .empty := by
  obtain ⟨winner, hwinner, hothers, hdb⟩ :=
    (bootstrap_commits_once rivals (by decide) (fun _ => rfl) rivalSchedule).2 allFinished_rivals
  have hlate : (bootstrapped rivals rivalSchedule).progress 1 =
      .finished (.error (.conflict "database is locked")) := rfl
  have hfirst : winner = 0 := by
    by_contra hne
    obtain rfl : winner = 1 := by omega
    rw [hlate] at hwinner
    cases hwinner
  rw [hfirst] at hwinner hothers hdb
  exact ⟨hwinner, hothers 1 (by decide), hdb⟩

end Store
end Gatehouse
