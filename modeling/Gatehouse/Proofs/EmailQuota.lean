import Gatehouse.EmailQuota.Concurrent
import Gatehouse.Proofs.Store.Counter
import Gatehouse.Proofs.Store.Invariant

/-!
# The daily email quota

However the steps of several callers interleave, the emails of one project on one day are numbered in
the order in which they are counted, and the first of them are accepted, as many as the quota has
left. Emails of other projects and of other days make no difference.

What carries the proof is that a step changes one counter only, and that the quota a caller has read
stays the quota, since no email changes a project.
-/

namespace Gatehouse.EmailQuota

variable {σ : Type}

/-! ## What is told about a count -/

/-- What is told about an email after which the count is this one. -/
def verdict (quota usage : Nat) : Except StoreError Usage :=
  if quota < usage then .error (.quotaExceeded usage quota) else .ok ⟨usage, quota⟩

/-- What is told about an email that counts as the one with this number on its day. -/
def told (quota number : Nat) : Except StoreError Usage :=
  Database.countTold number >>= verdict quota

/-- An email is accepted if its number is within the quota. -/
theorem isAccepted_told_iff {quota : Nat} (hquota : quota < Limit.bits32) (number : Nat) :
    (Progress.finished (told quota number)).isAccepted = true ↔ number ≤ quota := by
  have hrange : Limit.bits32 < Limit.bits63 := by decide
  rw [told, Database.countTold]
  by_cases hend : Limit.bits63 ≤ number
  · rw [if_pos hend]
    exact iff_of_false Bool.false_ne_true (by omega)
  · rw [if_neg hend]
    by_cases hlarge : Limit.bits32 ≤ number
    · rw [if_pos hlarge]
      exact iff_of_false Bool.false_ne_true (by omega)
    · rw [if_neg hlarge]
      show (Progress.finished (verdict quota number)).isAccepted = true ↔ _
      rw [verdict]
      by_cases hover : quota < number
      · rw [if_pos hover]
        exact iff_of_false Bool.false_ne_true (by omega)
      · rw [if_neg hover]
        exact iff_of_true rfl (by omega)

/-- A number that does not fit 32 bits is a failure. -/
theorem told_of_large (quota : Nat) {number : Nat} (h : Limit.bits32 ≤ number) :
    ∃ e, told quota number = .error e := by
  rw [told, Database.countTold]
  by_cases hend : Limit.bits63 ≤ number
  · rw [if_pos hend]
    exact ⟨_, rfl⟩
  · rw [if_neg hend, if_pos h]
    exact ⟨_, rfl⟩

/-- Counts that are past the end are told alike. -/
theorem told_succ_congr {quota a b : Nat} (h : min a Limit.bits63 = min b Limit.bits63) :
    told quota (a + 1) = told quota (b + 1) := by
  by_cases ha : a < Limit.bits63
  · have hsame : a = b := by omega
    rw [hsame]
  · have hleft : Limit.bits63 ≤ a + 1 := by omega
    have hright : Limit.bits63 ≤ b + 1 := by omega
    rw [told, told, Database.countTold, Database.countTold, if_pos hleft, if_pos hright]

/-! ## The two steps of a caller -/

/-- The quota of a project, as the tables give it. -/
def quotaIn (default : Nat) (projectId : Uuid) (db : Database) : Except StoreError Nat := do
  let project ← db.getProject projectId
  return project.emailQuotaDaily.getD default

theorem reads_quotaOf (default : Nat) (projectId : Uuid) :
    Call.Reads (quotaOf (σ := σ) default projectId) (quotaIn default projectId) :=
  (Store.reads_read _).bind fun _ => Call.reads_pure _

/-- A quota that is read is a number of 32 bits, whether it is the project's own or the default. -/
theorem quotaIn_lt {default quota : Nat} {projectId : Uuid} {db : Database} (hdb : db.Conforms)
    (hdefault : default < Limit.bits32) (h : quotaIn default projectId db = .ok quota) :
    quota < Limit.bits32 := by
  obtain ⟨project, hproject, hquota⟩ := Traversal.bind_eq_ok_iff.1 h
  cases hrow : db.project? projectId with
  | none =>
    rw [hdb.getProject_of_none hrow] at hproject
    cases hproject
  | some row =>
    obtain ⟨_, own, -, hown, hread⟩ := hdb.getProject_of_some hrow
    obtain rfl := Except.ok.inj (hread.symm.trans hproject)
    obtain rfl : own.getD default = quota := Except.ok.inj hquota
    cases own with
    | none => exact hdefault
    | some n =>
      have hrange := hdb.quotas row (Database.mem_of_project?_eq_some hrow).1 n hown.symm
      show n < Limit.bits32
      omega

/-- A project whose quota can be read exists. -/
theorem exists_project_of_quotaIn {default quota : Nat} {projectId : Uuid} {db : Database}
    (hdb : db.Conforms) (h : quotaIn default projectId db = .ok quota) :
    ∃ row ∈ db.projects, row.id = projectId.text := by
  cases hrow : db.project? projectId with
  | none =>
    rw [quotaIn, hdb.getProject_of_none hrow] at h
    cases h
  | some row => exact ⟨row, Database.mem_of_project?_eq_some hrow⟩

theorem reads_accept (quota : Nat) (projectId : Uuid) (usage : Nat) :
    Call.Reads (accept (σ := σ) quota projectId usage) fun _ => verdict quota usage := by
  apply Call.Reads.emit_bind
  unfold verdict
  split
  · exact Call.reads_emit_fail _ _
  · exact Call.reads_pure _

/-- Counting an email of a project that exists: its number is one more than what was counted, and
nothing is changed but its counter. -/
theorem run_count (quota : Nat) {projectId : Uuid} (now : Int) {w : World σ}
    (hdb : w.tables.Conforms) (hproject : ∃ row ∈ w.tables.projects, row.id = projectId.text) :
    ((count quota projectId now).run w).1 =
        told quota (w.tables.emailsOn projectId (dayOf now) + 1) ∧
      ((count quota projectId now).run w).2.tables =
        w.tables.counting projectId (dayOf now) := by
  have hstatement : Statement.all [.countEmail projectId (dayOf now)] w.tables =
      .ok (w.tables.counting projectId (dayOf now)) :=
    Statement.all_singleton_eq_ok_iff.2
      ((Store.Command.statements_countEmail hdb).2 ⟨.inr hproject, rfl⟩)
  let tell : Unit → Call σ StoreError Usage := fun _ =>
    .query (Database.usageOn projectId (dayOf now)) >>= accept quota projectId
  have htell : Call.Reads (tell ()) fun db =>
      db.usageOn projectId (dayOf now) >>= verdict quota :=
    (Call.reads_query _).bind fun usage => reads_accept quota projectId usage
  obtain ⟨houtcome, htables⟩ := Store.run_runAll_bind [.countEmail projectId (dayOf now)] htell w
  rw [hstatement] at houtcome
  rw [Store.afterAll_of_ok hstatement] at htables
  rw [count, Store.countEmail, bind_assoc]
  refine ⟨houtcome.trans ?_, htables⟩
  show ((w.tables.counting projectId (dayOf now)).usageOn projectId (dayOf now) >>= _) = _
  rw [hdb.usageOn_counting]
  rfl

/-! ## Emails of a day -/

theorem Email.countsFor_iff {e : Email} {projectId : Uuid} {day : Int} :
    e.countsFor projectId day = true ↔ e.projectId = projectId ∧ dayOf e.sentAt = day := by
  rw [countsFor, Bool.and_eq_true, beq_iff_eq, beq_iff_eq]

/-- A day is the time from its first second to the first second of the next one, before the epoch as
after it. -/
theorem dayOf_eq_iff {now day : Int} :
    dayOf now = day ↔ day * secondsPerDay ≤ now ∧ now < (day + 1) * secondsPerDay := by
  rw [dayOf, secondsPerDay, Int.fdiv_eq_ediv_of_nonneg _ (by decide)]
  omega

/-! ## Schedules -/

namespace Senders

variable {n : Nat} {default : Nat} {emails : Fin n → Email} {db₀ : Database} {s : Senders σ n}
  {counted : List (Fin n)} {i j : Fin n}

/-- How many of some callers have an email for a project on a day. -/
def numberFor (emails : Fin n → Email) (projectId : Uuid) (day : Int) (counted : List (Fin n)) :
    Nat :=
  counted.countP fun i => (emails i).countsFor projectId day

/-- What is known of a caller that has come so far, when the emails of some callers have been counted
in this order. -/
inductive Sound (default : Nat) (emails : Fin n → Email) (db₀ : Database) (counted : List (Fin n))
    (i : Fin n) : Progress → Prop where
  | ready (hnew : i ∉ counted) : Sound default emails db₀ counted i .ready
  /-- The quota that it has read is the one that its project had from the beginning. -/
  | read (hnew : i ∉ counted) {quota : Nat}
      (hquota : quotaIn default (emails i).projectId db₀ = .ok quota) :
      Sound default emails db₀ counted i (.read quota)
  | refused (hnew : i ∉ counted) {e : StoreError}
      (hquota : quotaIn default (emails i).projectId db₀ = .error e) :
      Sound default emails db₀ counted i (.finished (.error e))
  /-- It has been told its number, which only the emails before it have decided. -/
  | told {quota : Nat} (hquota : quotaIn default (emails i).projectId db₀ = .ok quota)
      {earlier later : List (Fin n)} (hsplit : counted = earlier ++ i :: later) :
      Sound default emails db₀ counted i (.finished (told quota
        (db₀.emailsOn (emails i).projectId (dayOf (emails i).sentAt) +
          numberFor emails (emails i).projectId (dayOf (emails i).sentAt) earlier + 1)))

/-- What is known of a caller stays known when the email of another one is counted. -/
theorem Sound.concat {p : Progress} (h : Sound default emails db₀ counted j p) (hne : j ≠ i) :
    Sound default emails db₀ (counted ++ [i]) j p := by
  have hstill : j ∉ counted → j ∉ counted ++ [i] := by
    intro hnew hmem
    rcases List.mem_append.1 hmem with hmem | hmem
    · exact hnew hmem
    · exact hne (List.mem_singleton.1 hmem)
  cases h with
  | ready hnew => exact .ready (hstill hnew)
  | read hnew hquota => exact .read (hstill hnew) hquota
  | refused hnew hquota => exact .refused (hstill hnew) hquota
  | @told quota hquota earlier later hsplit =>
    have hsplit' : counted ++ [i] = earlier ++ j :: (later ++ [i]) := by
      rw [hsplit, List.append_assoc, List.cons_append]
    exact .told hquota hsplit'

/-- Each caller is where it should be, nothing but counters has been changed, and each counter has
counted the emails of its project and day, up to its end. -/
structure Inv (default : Nat) (emails : Fin n → Email) (db₀ : Database) (s : Senders σ n) :
    Prop where
  conforms : s.world.tables.Conforms
  frame : s.world.tables = { db₀ with quotaUsage := s.world.tables.quotaUsage }
  nodup : s.counted.Nodup
  counters : ∀ projectId day, min (s.world.tables.emailsOn projectId day) Limit.bits63 =
    min (db₀.emailsOn projectId day + numberFor emails projectId day s.counted) Limit.bits63
  sound : ∀ i, Sound default emails db₀ s.counted i (s.progress i)

theorem inv_start {w : World σ} (hdb : w.tables.Conforms) :
    Inv default emails w.tables (start w : Senders σ n) where
  conforms := hdb
  frame := rfl
  nodup := List.nodup_nil
  counters _ _ := rfl
  sound _ := .ready List.not_mem_nil

/-- Where the projects are as they were, so are their quotas. -/
theorem Inv.quotaIn_eq (h : Inv default emails db₀ s) (projectId : Uuid) :
    quotaIn default projectId s.world.tables = quotaIn default projectId db₀ := by
  rw [h.frame]
  rfl

/-- Nobody but the caller comes further in a step. -/
theorem sound_update {p : Progress} (hself : Sound default emails db₀ counted i p)
    (hothers : ∀ j, j ≠ i → Sound default emails db₀ counted j (s.progress j)) (j : Fin n) :
    Sound default emails db₀ counted j (Function.update s.progress i p j) := by
  by_cases hj : j = i
  · subst hj
    rw [Function.update_self]
    exact hself
  · rw [Function.update_of_ne hj]
    exact hothers j hj

theorem step_of_act {p : Progress} {w : World σ}
    (hact : act default (emails i) s.world (s.progress i) = (p, w)) :
    (s.step default emails i).world = w ∧
      (s.step default emails i).progress = Function.update s.progress i p := by
  rw [step, hact]
  exact ⟨rfl, rfl⟩

/-- A step that changes neither tables nor counts keeps the invariant, if its caller is then where it
should be. -/
theorem Inv.of_same (h : Inv default emails db₀ s) {p : Progress} {w : World σ}
    (hact : act default (emails i) s.world (s.progress i) = (p, w))
    (htables : w.tables = s.world.tables)
    (hcounted : (s.step default emails i).counted = s.counted)
    (hsound : Sound default emails db₀ s.counted i p) :
    Inv default emails db₀ (s.step default emails i) := by
  obtain ⟨hworld, hprogress⟩ := step_of_act hact
  have hsame : (s.step default emails i).world.tables = s.world.tables := by rw [hworld, htables]
  constructor
  · exact hsame ▸ h.conforms
  · exact hsame ▸ h.frame
  · exact hcounted ▸ h.nodup
  · intro projectId day
    rw [hsame, hcounted]
    exact h.counters projectId day
  · rw [hcounted, hprogress]
    exact sound_update hsound fun j _ => h.sound j

theorem numberFor_concat (projectId : Uuid) (day : Int) (counted : List (Fin n)) (i : Fin n) :
    numberFor emails projectId day (counted ++ [i]) = numberFor emails projectId day counted +
      if (emails i).countsFor projectId day then 1 else 0 := by
  rw [numberFor, List.countP_append, List.countP_singleton]
  rfl

/-- The email that is counted moves its own counter, and no other one. -/
theorem min_emailsOn_counting {db : Database} (hdb : db.Conforms) (i : Fin n) {before : Nat}
    {projectId : Uuid} {day : Int}
    (h : min (db.emailsOn projectId day) Limit.bits63 =
      min (before + numberFor emails projectId day counted) Limit.bits63) :
    min ((db.counting (emails i).projectId (dayOf (emails i).sentAt)).emailsOn projectId day)
        Limit.bits63 =
      min (before + numberFor emails projectId day (counted ++ [i])) Limit.bits63 := by
  rw [numberFor_concat]
  by_cases hkey : (emails i).countsFor projectId day = true
  · obtain ⟨rfl, rfl⟩ := Email.countsFor_iff.1 hkey
    rw [if_pos hkey, hdb.emailsOn_counting]
    -- Both counts go up by one, and both are cut at the end of the counter.
    omega
  · have hne : (projectId, day) ≠ ((emails i).projectId, dayOf (emails i).sentAt) := by
      rintro heq
      obtain ⟨rfl, rfl⟩ := Prod.mk.inj heq
      exact hkey (Email.countsFor_iff.2 ⟨rfl, rfl⟩)
    rw [if_neg hkey, Database.emailsOn_counting_of_ne hne]
    exact h

/-- A caller that has read its quota counts its email, and is told what comes of its number. -/
theorem Inv.step_read (h : Inv default emails db₀ s) {quota : Nat}
    (hprogress : s.progress i = .read quota) : Inv default emails db₀ (s.step default emails i) := by
  have hsound := h.sound i
  rw [hprogress] at hsound
  obtain ⟨hnew, hquota⟩ : i ∉ s.counted ∧ quotaIn default (emails i).projectId db₀ = .ok quota := by
    cases hsound with
    | read hnew hquota => exact ⟨hnew, hquota⟩
  have hproject := exists_project_of_quotaIn h.conforms ((h.quotaIn_eq _).trans hquota)
  obtain ⟨houtcome, htables⟩ := run_count quota (emails i).sentAt h.conforms hproject
  -- Past the end of the counter the number is no longer that of the tables, but it is told alike.
  rw [told_succ_congr (h.counters _ _)] at houtcome
  rcases hrun : (count quota (emails i).projectId (emails i).sentAt).run s.world with ⟨outcome, w⟩
  rw [hrun] at houtcome htables
  have hact : act default (emails i) s.world (s.progress i) = (.finished outcome, w) := by
    rw [hprogress, act, hrun]
  obtain ⟨hworld, hupdate⟩ := step_of_act hact
  have hcounted : (s.step default emails i).counted = s.counted ++ [i] := by
    rw [step, hprogress]
  have hafter : (s.step default emails i).world.tables =
      s.world.tables.counting (emails i).projectId (dayOf (emails i).sentAt) := by
    rw [hworld]
    exact htables
  constructor
  · -- The tables are those that the operation of the store leaves.
    rw [hafter]
    exact Statement.countEmail_conforms h.conforms
      ((Store.Command.statements_countEmail h.conforms).2 ⟨.inr hproject, rfl⟩)
  · rw [hafter, Database.counting, h.frame]
  · rw [hcounted]
    exact List.nodup_append.2 ⟨h.nodup, List.nodup_singleton i, by
      rintro j hj k hk rfl
      exact hnew (List.mem_singleton.1 hk ▸ hj)⟩
  · intro projectId day
    rw [hafter, hcounted]
    exact min_emailsOn_counting h.conforms i (h.counters projectId day)
  · obtain rfl : outcome = told quota _ := houtcome
    rw [hcounted, hupdate]
    exact sound_update (.told hquota rfl) fun j hj => (h.sound j).concat hj

theorem Inv.step (h : Inv default emails db₀ s) (i : Fin n) :
    Inv default emails db₀ (s.step default emails i) := by
  have hsound := h.sound i
  cases hprogress : s.progress i with
  | ready =>
    rw [hprogress] at hsound
    have hnew : i ∉ s.counted := by
      cases hsound with
      | ready hnew => exact hnew
    have hcounted : (s.step default emails i).counted = s.counted := by
      rw [Senders.step, hprogress]
    -- The caller reads the quota that its project had from the beginning.
    obtain ⟨houtcome, htables⟩ := reads_quotaOf default (emails i).projectId s.world
    rw [h.quotaIn_eq] at houtcome
    rcases hrun : (quotaOf default (emails i).projectId).run s.world with ⟨e | quota, w⟩
    · rw [hrun] at houtcome htables
      have hact : act default (emails i) s.world (s.progress i) = (.finished (.error e), w) := by
        rw [hprogress, act, hrun]
      exact h.of_same hact htables hcounted (.refused hnew houtcome.symm)
    · rw [hrun] at houtcome htables
      have hact : act default (emails i) s.world (s.progress i) = (.read quota, w) := by
        rw [hprogress, act, hrun]
      exact h.of_same hact htables hcounted (.read hnew houtcome.symm)
  | read quota => exact h.step_read hprogress
  | finished outcome =>
    have hact : act default (emails i) s.world (s.progress i) = (.finished outcome, s.world) := by
      rw [hprogress, act]
    have hcounted : (s.step default emails i).counted = s.counted := by
      rw [Senders.step, hprogress]
    exact h.of_same hact rfl hcounted (hprogress ▸ hsound)

/-- By induction on the schedule: whoever is stepped next, the step keeps the invariant. -/
theorem Inv.run (h : Inv default emails db₀ s) (schedule : List (Fin n)) :
    Inv default emails db₀ (s.run default emails schedule) := by
  induction schedule generalizing s with
  | nil => exact h
  | cons i schedule ih => exact ih (h.step i)

/-- How many steps a caller has left. -/
def stepsLeft : Progress → Nat
  | .ready => 2
  | .read _ => 1
  | .finished _ => 0

theorem stepsLeft_act (default : Nat) (e : Email) (w : World σ) (p : Progress) :
    stepsLeft (act default e w p).1 ≤ stepsLeft p - 1 := by
  cases p with
  | ready =>
    rw [act]
    rcases (quotaOf default e.projectId).run w with ⟨e | quota, w⟩
    · exact Nat.zero_le _
    · exact Nat.le_refl _
  | read quota => exact Nat.le_refl _
  | finished outcome => exact Nat.le_refl _

/-- Each step of a caller is one less that it has left. Those of others make no difference. -/
theorem stepsLeft_run (schedule : List (Fin n)) :
    stepsLeft ((s.run default emails schedule).progress i) ≤
      stepsLeft (s.progress i) - schedule.count i := by
  -- By induction on the schedule, over any state that it may begin in.
  induction schedule generalizing s with
  | nil => exact Nat.le_refl _
  | cons j schedule ih =>
    have hrest := ih (s := s.step default emails j)
    show stepsLeft (((s.step default emails j).run default emails schedule).progress i) ≤ _
    by_cases hj : j = i
    · subst hj
      have hself : (s.step default emails j).progress j =
          (act default (emails j) s.world (s.progress j)).1 := Function.update_self ..
      have hact := stepsLeft_act default (emails j) s.world (s.progress j)
      rw [hself] at hrest
      rw [List.count_cons_self]
      omega
    · have hother : (s.step default emails j).progress i = s.progress i :=
        Function.update_of_ne (Ne.symm hj) ..
      rw [hother] at hrest
      rw [List.count_cons_of_ne hj]
      exact hrest

/-- A caller that takes both of its steps finishes, whatever the others do. -/
theorem finished_of_two_steps {w : World σ} {schedule : List (Fin n)}
    (h : 2 ≤ schedule.count i) :
    ∃ outcome, ((start w).run default emails schedule).progress i = .finished outcome := by
  have hleft : stepsLeft (((start w : Senders σ n).run default emails schedule).progress i) ≤
      2 - schedule.count i := stepsLeft_run schedule
  cases hprogress : ((start w).run default emails schedule).progress i with
  | finished outcome => exact ⟨outcome, rfl⟩
  | ready =>
    have hready : stepsLeft .ready = 2 := rfl
    rw [hprogress, hready] at hleft
    omega
  | read quota =>
    have hread : stepsLeft (.read quota) = 1 := rfl
    rw [hprogress, hread] at hleft
    omega

/-- A caller that nobody interrupts does what the service does in one call. -/
theorem run_alone (hready : s.progress i = .ready) :
    let call := recordSend default (emails i).projectId (emails i).sentAt
    (s.run default emails [i, i]).progress i = .finished (call.run s.world).1 ∧
      (s.run default emails [i, i]).world = (call.run s.world).2 := by
  intro call
  show ((s.step default emails i).step default emails i).progress i = _ ∧
    ((s.step default emails i).step default emails i).world = _
  have hfirst : (s.step default emails i).progress i =
      (act default (emails i) s.world .ready).1 ∧
      (s.step default emails i).world = (act default (emails i) s.world .ready).2 := by
    rw [← hready]
    exact ⟨Function.update_self .., rfl⟩
  have hsecond : ((s.step default emails i).step default emails i).progress i =
      (act default (emails i) (s.step default emails i).world
        ((s.step default emails i).progress i)).1 := Function.update_self ..
  have hworld : ((s.step default emails i).step default emails i).world =
      (act default (emails i) (s.step default emails i).world
        ((s.step default emails i).progress i)).2 := rfl
  rw [hsecond, hworld, hfirst.1, hfirst.2, show call = quotaOf default _ >>= _ from rfl,
    Call.run_bind, act]
  rcases (quotaOf default (emails i).projectId).run s.world with ⟨e | quota, w⟩
  · exact ⟨rfl, rfl⟩
  · exact ⟨rfl, rfl⟩

/-! ## The emails of one project and day -/

theorem mem_countedFor_iff {projectId : Uuid} {day : Int} :
    i ∈ s.countedFor emails projectId day ↔
      i ∈ s.counted ∧ (emails i).projectId = projectId ∧ dayOf (emails i).sentAt = day := by
  rw [countedFor, List.mem_filter, Email.countsFor_iff]

/-- An email has been counted exactly if its caller has finished, where its project exists. -/
theorem Inv.mem_counted_iff (h : Inv default emails db₀ s) {quota : Nat}
    (hquota : quotaIn default (emails i).projectId db₀ = .ok quota) :
    i ∈ s.counted ↔ ∃ outcome, s.progress i = .finished outcome := by
  have hsound := h.sound i
  generalize s.progress i = p at hsound
  cases hsound with
  | ready hnew => exact iff_of_false hnew nofun
  | read hnew => exact iff_of_false hnew nofun
  | refused hnew hrefused =>
    rw [hquota] at hrefused
    cases hrefused
  | told _ hsplit =>
    rw [hsplit]
    exact iff_of_true (List.mem_append_right _ List.mem_cons_self) ⟨_, rfl⟩

/-- The caller at a place in the order of its project and day is told the number of that place. -/
theorem Inv.progress_getElem (h : Inv default emails db₀ s) {projectId : Uuid} {day : Int}
    {quota : Nat} (hquota : quotaIn default projectId db₀ = .ok quota) {k : Nat}
    (hk : k < (s.countedFor emails projectId day).length) :
    s.progress (s.countedFor emails projectId day)[k] =
      .finished (told quota (db₀.emailsOn projectId day + k + 1)) := by
  set i := (s.countedFor emails projectId day)[k] with hi
  obtain ⟨hmem, hproject, hday⟩ := mem_countedFor_iff.1 (List.getElem_mem hk)
  rw [← hi] at hmem hproject hday
  have hsound := h.sound i
  generalize hprogress : s.progress i = p at hsound
  cases hsound with
  | ready hnew => exact absurd hmem hnew
  | read hnew => exact absurd hmem hnew
  | refused hnew => exact absurd hmem hnew
  | @told quota' hquota' earlier later hsplit =>
    rw [hproject] at hquota'
    obtain rfl := Except.ok.inj (hquota'.symm.trans hquota)
    -- The callers before it in this order are those of its project and day that came earlier, since
    -- nobody is in the order twice.
    have hcalls : s.countedFor emails projectId day =
        earlier.filter (fun j => (emails j).countsFor projectId day) ++
          i :: later.filter (fun j => (emails j).countsFor projectId day) := by
      have hself : (emails i).countsFor projectId day = true :=
        Email.countsFor_iff.2 ⟨hproject, hday⟩
      rw [countedFor, hsplit, List.filter_append]
      exact congrArg _ (List.filter_cons_of_pos hself)
    have hlength : numberFor emails projectId day earlier = k := by
      have hplace : (s.countedFor emails projectId day)[numberFor emails projectId day earlier]? =
          some i := by
        rw [hcalls, numberFor, List.countP_eq_length_filter,
          List.getElem?_append_right (Nat.le_refl _), Nat.sub_self, List.getElem?_cons_zero]
      have hat : (s.countedFor emails projectId day)[k]? = some i := by
        rw [List.getElem?_eq_getElem hk, hi]
      exact ((List.getElem?_inj hk (h.nodup.filter _)).1 (hat.trans hplace.symm)).symm
    rw [hproject, hday, hlength]

end Senders

/-- If the places of a list that are taken are the first ones, the elements there are the first
ones. -/
theorem filter_eq_take {α : Type} {p : α → Bool} {xs : List α} {m : Nat}
    (h : ∀ k (hk : k < xs.length), p xs[k] = true ↔ k < m) : xs.filter p = xs.take m := by
  -- Of the rest of the list one place less is taken, or none if there was none to take.
  induction xs generalizing m with
  | nil => rw [List.filter_nil, List.take_nil]
  | cons x xs ih =>
    have hhead : p x = true ↔ 0 < m := h 0 (Nat.zero_lt_succ _)
    have htail : ∀ k (hk : k < xs.length), p xs[k] = true ↔ k < m - 1 := by
      intro k hk
      have hnext : p xs[k] = true ↔ k + 1 < m := h (k + 1) (Nat.succ_lt_succ hk)
      rw [hnext]
      omega
    cases m with
    | zero =>
      rw [List.filter_cons_of_neg (fun hx => absurd (hhead.1 hx) (Nat.lt_irrefl 0)), ih htail]
      rfl
    | succ m =>
      rw [List.filter_cons_of_pos (hhead.2 (Nat.succ_pos m)), ih htail, List.take_succ_cons]
      rfl

/-! ## The quota -/

section Quota

variable {n : Nat}

open Senders

/-- What has become of the emails of a project on a day when so many of them had been counted before:
those in `calls` have been dealt with, in this order. -/
structure Admission (emails : Fin n → Email) (s : Senders σ n) (projectId : Uuid) (day : Int)
    (quota before : Nat) (calls : List (Fin n)) : Prop where
  /-- They are the callers of this project and day that have finished. -/
  mem_iff : ∀ i, i ∈ calls ↔ (emails i).projectId = projectId ∧
    (day * secondsPerDay ≤ (emails i).sentAt ∧ (emails i).sentAt < (day + 1) * secondsPerDay) ∧
    ∃ outcome, s.progress i = .finished outcome
  nodup : calls.Nodup
  /-- Each is told the next number, with none left out or given twice. -/
  numbered : ∀ k (hk : k < calls.length),
    s.progress calls[k] = .finished (told quota (before + k + 1))
  /-- The first ones are accepted, as many as the quota has left. -/
  first : calls.filter (fun i => (s.progress i).isAccepted) = calls.take (quota - before)
  number_accepted : calls.countP (fun i => (s.progress i).isAccepted) =
    min calls.length (quota - before)
  /-- A number that does not fit 32 bits is refused. -/
  large : ∀ k (hk : k < calls.length), Limit.bits32 ≤ before + k + 1 →
    ∃ e, s.progress calls[k] = .finished (.error e)

theorem Senders.Inv.admission {default quota : Nat} {emails : Fin n → Email} {db₀ : Database}
    {s : Senders σ n} {projectId : Uuid} (h : Inv default emails db₀ s) (hdb : db₀.Conforms)
    (hdefault : default < Limit.bits32) (hquota : quotaIn default projectId db₀ = .ok quota)
    (day : Int) : Admission emails s projectId day quota (db₀.emailsOn projectId day)
      (s.countedFor emails projectId day) := by
  have htold : ∀ k (hk : k < (s.countedFor emails projectId day).length),
      s.progress (s.countedFor emails projectId day)[k] =
        .finished (told quota (db₀.emailsOn projectId day + k + 1)) :=
    fun k hk => h.progress_getElem hquota hk
  have hfirst : (s.countedFor emails projectId day).filter (fun i => (s.progress i).isAccepted) =
      (s.countedFor emails projectId day).take (quota - db₀.emailsOn projectId day) := by
    apply filter_eq_take
    intro k hk
    rw [htold k hk, isAccepted_told_iff (quotaIn_lt hdb hdefault hquota)]
    omega
  constructor
  · intro i
    rw [mem_countedFor_iff, dayOf_eq_iff, and_comm (a := i ∈ s.counted), and_assoc]
    refine and_congr_right fun hi => and_congr_right fun _ => ?_
    exact h.mem_counted_iff (hi ▸ hquota)
  · exact h.nodup.filter _
  · exact htold
  · exact hfirst
  · rw [List.countP_eq_length_filter, hfirst, List.length_take, Nat.min_comm]
  · intro k hk hlarge
    obtain ⟨e, he⟩ := told_of_large quota hlarge
    exact ⟨e, by rw [htold k hk, he]⟩

/-- An email of a project that does not exist is not counted, and not found. -/
theorem Senders.Inv.unknown {default : Nat} {emails : Fin n → Email} {db₀ : Database}
    {s : Senders σ n} {i : Fin n} (h : Inv default emails db₀ s) (hdb : db₀.Conforms)
    (hunknown : db₀.project? (emails i).projectId = none) :
    i ∉ s.counted ∧ ∀ outcome, s.progress i = .finished outcome →
      outcome = .error (.notFound s!"project {(emails i).projectId}") := by
  have hread : quotaIn default (emails i).projectId db₀ =
      .error (.notFound s!"project {(emails i).projectId}") := by
    rw [quotaIn, hdb.getProject_of_none hunknown]
    rfl
  have hsound := h.sound i
  generalize s.progress i = p at hsound
  cases hsound with
  | ready hnew => exact ⟨hnew, nofun⟩
  | read hnew => exact ⟨hnew, nofun⟩
  | refused hnew hrefused =>
    refine ⟨hnew, ?_⟩
    rintro outcome ⟨⟩
    rw [hread] at hrefused
    exact congrArg Except.error (Except.error.inj hrefused).symm
  | told hquota =>
    rw [hread] at hquota
    cases hquota

/-- **The daily email quota.** Callers count emails, each in its two steps, and their steps interleave
in any way. The emails of one project on one day are numbered in the order in which they are counted,
behind those that were counted before; the first of them are accepted, as many as the quota has left,
and the count goes up with each of them, accepted or not. So nothing depends on the emails of other
projects or days. An email of an unknown project is not found and not counted. A caller that takes
both of its steps finishes. -/
theorem admits_first (default : Nat) (emails : Fin n → Email) (w : World σ)
    (schedule : List (Fin n)) (hdb : w.tables.Conforms) (hdefault : default < Limit.bits32) :
    let s := (start w).run default emails schedule
    (∀ projectId day project, w.tables.getProject projectId = .ok project →
      Admission emails s projectId day (project.emailQuotaDaily.getD default)
        (w.tables.emailsOn projectId day) (s.countedFor emails projectId day)) ∧
    (∀ i, w.tables.project? (emails i).projectId = none → i ∉ s.counted ∧
      ∀ outcome, s.progress i = .finished outcome →
        outcome = .error (.notFound s!"project {(emails i).projectId}")) ∧
    (∀ i, 2 ≤ schedule.count i → ∃ outcome, s.progress i = .finished outcome) ∧
    ∀ projectId day, min (s.world.tables.emailsOn projectId day) Limit.bits63 =
      min (w.tables.emailsOn projectId day + (s.countedFor emails projectId day).length)
        Limit.bits63 := by
  intro s
  have hinv : Inv default emails w.tables s := (inv_start hdb).run schedule
  refine ⟨fun projectId day project hproject => ?_, fun i hunknown => ?_,
    fun i hsteps => finished_of_two_steps hsteps, fun projectId day => ?_⟩
  · have hquota : quotaIn default projectId w.tables =
        .ok (project.emailQuotaDaily.getD default) := by
      rw [quotaIn, hproject]
      rfl
    exact hinv.admission hdb hdefault hquota day
  · exact hinv.unknown hdb hunknown
  · rw [hinv.counters, numberFor, countedFor, List.countP_eq_length_filter]

/-- Emails of a console, the first two on the last day before the epoch and the third one on the day
after. The last one is of a project that does not exist. -/
def sampleEmails (i : Fin 4) : Email :=
  match i with
  | 0 => ⟨.ofNat 1, -1⟩
  | 1 => ⟨.ofNat 1, -86400⟩
  | 2 => ⟨.ofNat 1, 0⟩
  | 3 => ⟨.ofNat 9, 0⟩

/-- A store with a console, in which these emails have been counted under a quota of one a day. The
first caller is overtaken by the second one between its two steps. -/
def sampleSenders : Senders Unit 4 :=
  (start { tables := Store.sampleConsole.tables, protector := () }).run 1 sampleEmails
    [0, 1, 3, 1, 2, 0, 2, 3]

/-- The email that is counted first is accepted, the other one of its day is not, and the email of the
next day has a quota to itself. -/
theorem admits_first_overtaken :
    sampleSenders.progress 1 = .finished (.ok ⟨1, 1⟩) ∧
      sampleSenders.progress 0 = .finished (.error (.quotaExceeded 2 1)) ∧
      sampleSenders.progress 2 = .finished (.ok ⟨1, 1⟩) ∧
      sampleSenders.progress 3 = .finished (.error (.notFound s!"project {Uuid.ofNat 9}")) ∧
      min (sampleSenders.world.tables.emailsOn (.ofNat 1) (-1)) Limit.bits63 = 2 := by
  have hdb := (Store.reachable_tables Store.sampleConsole rfl).conforms
  obtain ⟨hadmitted, hunknown, hfinished, hcounts⟩ := admits_first 1 sampleEmails
    (World.mk Store.sampleConsole.tables () []) [0, 1, 3, 1, 2, 0, 2, 3] hdb (by decide)
  have hrow : Store.sampleConsole.tables.project? (.ofNat 1) =
      Store.sampleConsole.tables.projects.head? := by decide +kernel
  obtain ⟨_, quota, -, hquota, hread⟩ := hdb.getProject_of_some hrow
  obtain rfl : quota = none := by
    cases quota with
    | none => rfl
    | some n => cases hquota
  have hlast : sampleSenders.countedFor sampleEmails (.ofNat 1) (-1) = [1, 0] := by
    decide +kernel
  have hfirst : sampleSenders.countedFor sampleEmails (.ofNat 1) 0 = [2] := by decide +kernel
  have hnone : ∀ day, Store.sampleConsole.tables.emailsOn (.ofNat 1) day = 0 := fun _ => rfl
  have hbefore : Admission sampleEmails sampleSenders (.ofNat 1) (-1) 1 0 [1, 0] := by
    rw [← hlast, ← hnone (-1)]
    exact hadmitted (.ofNat 1) (-1) _ hread
  have hafter : Admission sampleEmails sampleSenders (.ofNat 1) 0 1 0 [2] := by
    rw [← hfirst, ← hnone 0]
    exact hadmitted (.ofNat 1) 0 _ hread
  refine ⟨hbefore.numbered 0 (by decide), hbefore.numbered 1 (by decide),
    hafter.numbered 0 (by decide), ?_, ?_⟩
  · obtain ⟨outcome, houtcome⟩ := hfinished 3 (by decide)
    have hnotFound := (hunknown 3 (by decide +kernel)).2 outcome houtcome
    rw [hnotFound] at houtcome
    exact houtcome
  · have hcount := hcounts (.ofNat 1) (-1)
    rw [hnone] at hcount
    exact hcount.trans (congrArg (fun calls => min (0 + calls.length) Limit.bits63) hlast)

end Quota
end Gatehouse.EmailQuota
