import Gatehouse.Store.Operation

/-!
# Daily email quota

Each email counts for its project on the day it is sent, a day of universal time. It is refused
once the count passes the project's own quota, or the default quota if the project has none.
Refused emails are counted too.
-/

namespace Gatehouse.EmailQuota

variable {σ : Type}

/-- The part of the service that emits the events below. -/
def logTarget : String := "portier_storage::quota"

/-- Emails a day of a project that has no quota of its own, by default. -/
def defaultDaily : Nat := 1000

/-- Number of seconds in a day. -/
def secondsPerDay : Int := 86400

/-- The day that an instant belongs to. -/
def dayOf (now : Int) : Int := now.fdiv secondsPerDay

/-- An email that may be sent. -/
structure Usage where
  /-- Emails counted on its day, itself included. -/
  usage : Nat
  /-- The project's quota. -/
  quota : Nat
deriving DecidableEq, Repr

/-- Reads the quota of a project. -/
def quotaOf (default : Nat) (projectId : Uuid) : Call σ StoreError Nat := do
  let project ← Store.getProject projectId
  return project.emailQuotaDaily.getD default

/-- Accepts an email that has been counted, unless the count has passed the quota. -/
def accept (quota : Nat) (projectId : Uuid) (usage : Nat) : Call σ StoreError Usage := do
  .emit { level := .info, target := logTarget, message := "email_daily_quota_usage",
          fields := [("project_id", .text projectId.text), ("usage", .number usage),
                     ("quota", .number quota)] }
  if quota < usage then
    .emit { level := .info, target := logTarget, message := "email_daily_quota_exceeded",
            fields := [("project_id", .text projectId.text)] }
    .fail (.quotaExceeded usage quota)
  else return ⟨usage, quota⟩

/-- Counts one email of a project with a given quota. -/
def count (quota : Nat) (projectId : Uuid) (now : Int) : Call σ StoreError Usage := do
  let usage ← Store.countEmail projectId (dayOf now)
  accept quota projectId usage

/-- Counts one email of a project. -/
def recordSend (default : Nat) (projectId : Uuid) (now : Int) : Call σ StoreError Usage := do
  let quota ← quotaOf default projectId
  count quota projectId now

end Gatehouse.EmailQuota
