import Gatehouse.EmailQuota
import Mathlib.Logic.Function.Basic

/-!
# Emails counted side by side

Several callers count an email each. A caller reads its project's quota and then counts its email,
each in one step. Any number of other steps may take place between the two, and the count that the
caller is told is the one that its own step has made.
-/

namespace Gatehouse.EmailQuota

/-- An email to be counted. -/
structure Email where
  projectId : Uuid
  sentAt : Int
deriving DecidableEq, Repr

/-- Whether an email counts for a project on a day. -/
def Email.countsFor (projectId : Uuid) (day : Int) (e : Email) : Bool :=
  e.projectId == projectId && dayOf e.sentAt == day

/-- How far the counting of an email has come. -/
inductive Progress where
  | ready
  /-- The quota of the project has been read. -/
  | read (quota : Nat)
  | finished (outcome : Except StoreError Usage)

/-- Whether an email has been accepted. -/
def Progress.isAccepted : Progress → Bool
  | .finished (.ok _) => true
  | _ => false

section Act

variable {σ : Type}

/-- One step of a caller. -/
def act (default : Nat) (e : Email) (w : World σ) : Progress → Progress × World σ
  | .ready =>
    match (quotaOf default e.projectId).run w with
    | (.ok quota, w) => (.read quota, w)
    | (.error e, w) => (.finished (.error e), w)
  | .read quota =>
    match (count quota e.projectId e.sentAt).run w with
    | (outcome, w) => (.finished outcome, w)
  | .finished outcome => (.finished outcome, w)

end Act

/-- `n` callers at work on one store. -/
structure Senders (σ : Type) (n : Nat) where
  world : World σ
  progress : Fin n → Progress
  /-- The callers that have taken the step that counts, in this order. -/
  counted : List (Fin n) := []

namespace Senders

variable {σ : Type} {n : Nat}

/-- Nobody has begun. -/
def start (w : World σ) : Senders σ n where
  world := w
  progress _ := .ready

/-- One step of one caller. -/
def step (default : Nat) (emails : Fin n → Email) (s : Senders σ n) (i : Fin n) : Senders σ n where
  world := (act default (emails i) s.world (s.progress i)).2
  progress := Function.update s.progress i (act default (emails i) s.world (s.progress i)).1
  counted :=
    match s.progress i with
    | .read _ => s.counted ++ [i]
    | _ => s.counted

/-- The steps of a schedule, which names the caller of each. -/
def run (default : Nat) (emails : Fin n → Email) (schedule : List (Fin n)) (s : Senders σ n) :
    Senders σ n :=
  schedule.foldl (step default emails) s

/-- The callers that have counted an email for a project on a day, in this order. -/
def countedFor (emails : Fin n → Email) (projectId : Uuid) (day : Int) (s : Senders σ n) :
    List (Fin n) :=
  s.counted.filter fun i => (emails i).countsFor projectId day

end Senders
end Gatehouse.EmailQuota
