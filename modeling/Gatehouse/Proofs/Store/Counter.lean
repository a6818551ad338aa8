import Gatehouse.Proofs.Store.Effect
import Gatehouse.Proofs.Store.Query

/-!
# Counters of emails

An email is counted by the counter of its project and day: that one begins with one or goes up by
one, and every other counter stays as it is. A counter that has come to its end stays there.
-/

namespace Gatehouse

theorem UsageRow.isCounterOf_iff {row : UsageRow} {projectId : Uuid} {day : Int} :
    row.isCounterOf projectId day = true ↔ row.projectId = projectId.text ∧ row.day = day := by
  rw [isCounterOf, Bool.and_eq_true, beq_iff_eq, beq_iff_eq]

/-- A counter counts for one project on one day only. -/
theorem UsageRow.isCounterOf_eq_false {row : UsageRow} {projectId other : Uuid} {day otherDay : Int}
    (h : row.isCounterOf projectId day = true) (hne : (other, otherDay) ≠ (projectId, day)) :
    row.isCounterOf other otherDay = false := by
  rw [Bool.eq_false_iff]
  intro hother
  obtain ⟨hproject, hday⟩ := isCounterOf_iff.1 h
  obtain ⟨hproject', hday'⟩ := isCounterOf_iff.1 hother
  apply hne
  rw [Uuid.text_injective (hproject'.symm.trans hproject), hday'.symm.trans hday]

namespace Database

variable {db : Database} {projectId other : Uuid} {day otherDay : Int}

/-- The emails that are counted for a project on a day. -/
def emailsOn (projectId : Uuid) (day : Int) (db : Database) : Nat :=
  match db.quotaUsage.find? (·.isCounterOf projectId day) with
  | some row => row.usage.toNat
  | none => 0

/-- What is told about a count. -/
def countTold (n : Nat) : Except StoreError Nat :=
  if Limit.bits63 ≤ n then .error (.queryFailed "count out of range")
  else if Limit.bits32 ≤ n then .error (.malformedValue s!"quota usage {n}")
  else .ok n

/-- The tables after one more email of a project on a day. -/
def counting (projectId : Uuid) (day : Int) (db : Database) : Database :=
  { db with quotaUsage := db.countedUsage projectId day }

/-- A change of counters that does not change whose they are does not change which one is found. -/
theorem find?_map_counters {change : UsageRow → UsageRow}
    (hkey : ∀ c, (change c).isCounterOf projectId day = c.isCounterOf projectId day)
    (rows : List UsageRow) :
    (rows.map change).find? (·.isCounterOf projectId day) =
      (rows.find? (·.isCounterOf projectId day)).map change := by
  have hsame : (fun c : UsageRow => c.isCounterOf projectId day) ∘ change =
      fun c => c.isCounterOf projectId day := by
    funext c
    rw [Function.comp_apply, hkey]
  rw [List.find?_map, hsame]

/-- Counting an email does not change whose counter a row is. -/
theorem isCounterOf_ite_next (c : UsageRow) (b : Bool) (projectId : Uuid) (day : Int) :
    (if b then c.next else c).isCounterOf projectId day = c.isCounterOf projectId day := by
  cases b with
  | false => rfl
  | true => rfl

/-! ## The counter that counts -/

/-- The counter after one more email: one that was there goes on, a new one begins. -/
theorem find?_counting_self (projectId : Uuid) (day : Int) (db : Database) :
    (db.counting projectId day).quotaUsage.find? (·.isCounterOf projectId day) =
      match db.quotaUsage.find? (·.isCounterOf projectId day) with
      | some row => some row.next
      | none => some ⟨projectId.text, day, 1⟩ := by
  show (db.countedUsage projectId day).find? _ = _
  rw [countedUsage]
  cases hfind : db.quotaUsage.find? (·.isCounterOf projectId day) with
  | some row =>
    have hrow : row.isCounterOf projectId day = true := by
      simpa using List.find?_some hfind
    have hany : db.quotaUsage.any (·.isCounterOf projectId day) = true :=
      List.any_eq_true.2 ⟨row, List.mem_of_find?_eq_some hfind, hrow⟩
    rw [if_pos hany, find?_map_counters fun c => isCounterOf_ite_next c _ projectId day, hfind,
      Option.map_some, if_pos hrow]
  | none =>
    have hany : ¬db.quotaUsage.any (·.isCounterOf projectId day) = true := by
      rw [List.any_eq_true]
      rintro ⟨row, hrow, hcounter⟩
      exact List.find?_eq_none.1 hfind row hrow hcounter
    have hnew : (UsageRow.mk projectId.text day 1).isCounterOf projectId day = true :=
      UsageRow.isCounterOf_iff.2 ⟨rfl, rfl⟩
    rw [if_neg hany, List.find?_append, hfind, Option.none_or]
    exact List.find?_cons_of_pos hnew

theorem Conforms.usage_of_find? (hdb : db.Conforms) {row : UsageRow}
    (h : db.quotaUsage.find? (·.isCounterOf projectId day) = some row) :
    row.usage = db.emailsOn projectId day := by
  have hcount := hdb.counts row (List.mem_of_find?_eq_some h)
  rw [emailsOn, h]
  show row.usage = (row.usage.toNat : Int)
  omega

/-- What is in the counter that has counted an email. -/
theorem Conforms.find?_counting (hdb : db.Conforms) (projectId : Uuid) (day : Int) :
    ∃ row, (db.counting projectId day).quotaUsage.find? (·.isCounterOf projectId day) = some row ∧
      row.usage = (min (db.emailsOn projectId day + 1) Limit.bits63 : Nat) := by
  rw [find?_counting_self]
  cases hfind : db.quotaUsage.find? (·.isCounterOf projectId day) with
  | some row =>
    refine ⟨row.next, rfl, ?_⟩
    have hend : UsageRow.maxUsage + 1 = (Limit.bits63 : Int) := by decide
    show min (row.usage + 1) (UsageRow.maxUsage + 1) = _
    rw [hdb.usage_of_find? hfind, hend]
    omega
  | none =>
    have hzero : db.emailsOn projectId day = 0 := by rw [emailsOn, hfind]
    refine ⟨_, rfl, ?_⟩
    rw [hzero]
    rfl

theorem Conforms.emailsOn_counting (hdb : db.Conforms) (projectId : Uuid) (day : Int) :
    (db.counting projectId day).emailsOn projectId day =
      min (db.emailsOn projectId day + 1) Limit.bits63 := by
  obtain ⟨row, hfind, husage⟩ := hdb.find?_counting projectId day
  rw [emailsOn, hfind]
  show row.usage.toNat = _
  rw [husage, Int.toNat_natCast]

/-- The count that is read after an email has been counted. -/
theorem Conforms.usageOn_counting (hdb : db.Conforms) (projectId : Uuid) (day : Int) :
    (db.counting projectId day).usageOn projectId day =
      countTold (db.emailsOn projectId day + 1) := by
  obtain ⟨row, hfind, husage⟩ := hdb.find?_counting projectId day
  have hend : UsageRow.maxUsage = (Limit.bits63 : Int) - 1 := rfl
  rw [usageOn, hfind]
  dsimp only
  rw [husage, hend, countTold]
  by_cases hfits : db.emailsOn projectId day + 1 < Limit.bits63
  · rw [min_eq_left (by omega), if_neg (by omega), if_neg (by omega), readCount]
    by_cases hcount : Limit.bits32 ≤ db.emailsOn projectId day + 1
    · rw [if_neg (by omega), if_pos hcount]
      rfl
    · rw [if_pos (by omega), if_neg hcount, Int.toNat_natCast]
  · rw [min_eq_right (by omega), if_pos (by omega), if_pos (by omega)]

/-! ## The counters of others -/

/-- Any other counter is as it was. -/
theorem find?_counting_of_ne (h : (other, otherDay) ≠ (projectId, day)) :
    (db.counting projectId day).quotaUsage.find? (·.isCounterOf other otherDay) =
      db.quotaUsage.find? (·.isCounterOf other otherDay) := by
  show (db.countedUsage projectId day).find? _ = _
  rw [countedUsage]
  split
  · rw [find?_map_counters fun c => isCounterOf_ite_next c _ other otherDay]
    cases hrow : db.quotaUsage.find? (·.isCounterOf other otherDay) with
    | none => rfl
    | some row =>
      -- The row that is found is not the one that is changed.
      have hcounter : row.isCounterOf other otherDay = true := by
        simpa using List.find?_some hrow
      have hsame : ¬row.isCounterOf projectId day = true :=
        Bool.eq_false_iff.1 (UsageRow.isCounterOf_eq_false hcounter h.symm)
      rw [Option.map_some, if_neg hsame]
  · have hnew : (UsageRow.mk projectId.text day 1).isCounterOf other otherDay = false :=
      UsageRow.isCounterOf_eq_false (UsageRow.isCounterOf_iff.2 ⟨rfl, rfl⟩) h
    have hnone : [UsageRow.mk projectId.text day 1].find? (·.isCounterOf other otherDay) = none :=
      List.find?_cons_of_neg (Bool.eq_false_iff.1 hnew)
    rw [List.find?_append, hnone, Option.or_none]

theorem emailsOn_counting_of_ne (h : (other, otherDay) ≠ (projectId, day)) :
    (db.counting projectId day).emailsOn other otherDay = db.emailsOn other otherDay := by
  rw [emailsOn, emailsOn, find?_counting_of_ne h]

end Database
end Gatehouse
