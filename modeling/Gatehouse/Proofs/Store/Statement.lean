import Gatehouse.Proofs.Traversal
import Gatehouse.Store.Statement

/-!
# What statements do

For each statement: exactly when it succeeds, and the tables it leaves then. A list of statements
succeeds if each does on the tables that the ones before it leave.
-/

namespace Gatehouse

namespace Database

/-- A statement that needs some tables goes on if they exist and may be read. -/
theorem require_bind_eq_ok_iff {α : Type} {db : Database} {ts : List Table}
    {f : Unit → Except StoreError α} {a : α} :
    (db.require ts >>= f) = .ok a ↔
      (∀ t ∈ ts, t ∉ db.missing) ∧ db.allowReading = .ok () ∧ f () = .ok a := by
  rw [← and_assoc, ← require_eq_ok_iff]
  cases h : db.require ts with
  | error e => simp [bind, Except.bind]
  | ok u => simp [bind, Except.bind]

/-- A statement that writes some tables goes on if they exist and nobody else holds them. -/
theorem writable_bind_eq_ok_iff {α : Type} {db : Database} {ts : List Table}
    {f : Unit → Except StoreError α} {a : α} :
    (db.writable ts >>= f) = .ok a ↔
      (∀ t ∈ ts, t ∉ db.missing) ∧ db.refusal = none ∧ f () = .ok a := by
  rw [writable, bind_assoc, require_bind_eq_ok_iff, ← allow_eq_ok_iff]
  cases h : db.allow with
  | error e => simp [bind, Except.bind]
  | ok u => simp [bind, Except.bind, allowReading_of_refusal (allow_eq_ok_iff.1 h)]

theorem hasProject_eq_true_iff {db : Database} {id : String} :
    db.hasProject id = true ↔ ∃ p ∈ db.projects, p.id = id := by
  simp [hasProject]

theorem hasOrganization_eq_true_iff {db : Database} {id : String} :
    db.hasOrganization id = true ↔ ∃ o ∈ db.organizations, o.id = id := by
  simp [hasOrganization]

end Database

namespace Statement

variable {db db' : Database}

/-! ## Lists of statements -/

theorem all_cons_eq_ok_iff {s : Statement} {ss : List Statement} :
    all (s :: ss) db = .ok db' ↔ ∃ mid, s db = .ok mid ∧ all ss mid = .ok db' := by
  rw [all_cons]
  cases s db with
  | error e => simp [bind, Except.bind]
  | ok mid => simp [bind, Except.bind]

theorem all_singleton (s : Statement) : all [s] = s := by
  funext db
  rw [all_cons]
  rcases s db with e | mid
  · rfl
  · rfl

theorem all_singleton_eq_ok_iff {s : Statement} : all [s] db = .ok db' ↔ s db = .ok db' := by
  rw [all_singleton]

theorem all_append_of_ok {ss ts : List Statement} {mid : Database} (h : all ss db = .ok mid) :
    all (ss ++ ts) db = all ts mid := by
  rw [all_append, h]
  rfl

/-- A list of statements fails exactly if one of them does on what those before it have left. -/
theorem all_eq_error_iff {ss : List Statement} {e : StoreError} :
    all ss db = .error e ↔ ∃ done failed rest mid, ss = done ++ failed :: rest ∧
      all done db = .ok mid ∧ failed mid = .error e := by
  constructor
  · intro h
    induction ss generalizing db with
    | nil => cases h
    | cons s ss ih =>
      rw [all_cons] at h
      cases hs : s db with
      | error e' =>
        rw [hs] at h
        obtain rfl : e' = e := Except.error.inj h
        exact ⟨[], s, ss, db, rfl, rfl, hs⟩
      | ok next =>
        rw [hs] at h
        obtain ⟨done, failed, rest, mid, rfl, hdone, hfailed⟩ := ih h
        exact ⟨s :: done, failed, rest, mid, rfl,
          all_cons_eq_ok_iff.2 ⟨next, hs, hdone⟩, hfailed⟩
  · rintro ⟨done, failed, rest, mid, rfl, hdone, hfailed⟩
    rw [all_append_of_ok hdone, all_cons, hfailed]
    rfl

/-- A property that each statement of a list keeps is kept by the list. -/
theorem all_preserves {P : Database → Prop} {ss : List Statement}
    (h : ∀ s ∈ ss, ∀ db db', P db → s db = .ok db' → P db') (hdb : P db)
    (hall : all ss db = .ok db') : P db' := by
  induction ss generalizing db with
  | nil =>
    obtain rfl : db = db' := Except.ok.inj hall
    exact hdb
  | cons s ss ih =>
    obtain ⟨mid, hs, hss⟩ := all_cons_eq_ok_iff.1 hall
    rw [List.forall_mem_cons] at h
    exact ih h.2 (h.1 db mid hdb hs) hss

theorem ok_eq_ok_iff {ε α : Type} {b a : α} : (.ok b : Except ε α) = .ok a ↔ a = b := by
  rw [Except.ok.injEq, eq_comm]

theorem ite_error_eq_ok_iff {ε α : Type} {c : Prop} [Decidable c] {e : ε} {r : Except ε α} {a : α} :
    (if c then .error e else r) = .ok a ↔ ¬c ∧ r = .ok a := by
  by_cases h : c <;> simp [h]

theorem ite_ok_eq_ok_iff {ε α : Type} {c : Prop} [Decidable c] {e : ε} {b a : α} :
    (if c then .ok b else .error e : Except ε α) = .ok a ↔ c ∧ a = b := by
  by_cases h : c <;> simp [h, eq_comm]

/-! ## Projects -/

theorem insertProject_eq_ok_iff {row : ProjectRow} :
    insertProject row db = .ok db' ↔
      .projects ∉ db.missing ∧ db.refusal = none ∧
      (row.isConsole = true → ∀ p ∈ db.projects, p.isConsole = false) ∧
      (row.organizationId.isSome = true →
        ∀ p ∈ db.projects, p.organizationId ≠ row.organizationId) ∧
      (∀ p ∈ db.projects, p.id ≠ row.id) ∧
      db' = { db with projects := db.projects ++ [row] } := by
  rw [insertProject, Database.writable_bind_eq_ok_iff, ite_error_eq_ok_iff, ite_error_eq_ok_iff,
    ite_error_eq_ok_iff, ok_eq_ok_iff, Database.hasProject_eq_true_iff]
  simp

theorem linkOrganization_eq_ok_iff {projectId organizationId : String} :
    linkOrganization projectId organizationId db = .ok db' ↔
      .projects ∉ db.missing ∧ db.refusal = none ∧
      ((∃ p ∈ db.projects, p.id = projectId) →
        ∀ p ∈ db.projects, p.id ≠ projectId → p.organizationId ≠ some organizationId) ∧
      db' = { db with
        projects := db.projects.map fun p =>
          if p.id == projectId then { p with organizationId := some organizationId } else p } := by
  rw [linkOrganization, Database.writable_bind_eq_ok_iff, ite_error_eq_ok_iff, ok_eq_ok_iff,
    Database.hasProject_eq_true_iff]
  simp

theorem updateProject_eq_ok_iff {id : Uuid} {change : ProjectRow → ProjectRow} :
    updateProject id change db = .ok db' ↔
      .projects ∉ db.missing ∧ db.refusal = none ∧
      db' = { db with projects := db.projects.map fun p =>
                if p.id == id.text then change p else p } := by
  rw [updateProject, Database.writable_bind_eq_ok_iff, ok_eq_ok_iff]
  simp

/-! ## What belongs to projects -/

/-- The rows that trusting a domain adds: none if the domain is trusted already. -/
def addedDomains (row : TrustedDomainRow) (db : Database) : List TrustedDomainRow :=
  if row ∈ db.trustedDomains then [] else [row]

/-- A domain is trusted afterwards in either case. -/
theorem mem_append_addedDomains (row : TrustedDomainRow) (db : Database) :
    row ∈ db.trustedDomains ++ addedDomains row db := by
  by_cases h : row ∈ db.trustedDomains
  · exact List.mem_append_left _ h
  · rw [addedDomains, if_neg h]
    exact List.mem_append_right _ (List.mem_singleton.2 rfl)

theorem insertTrustedDomain_eq_ok_iff {row : TrustedDomainRow} :
    insertTrustedDomain row db = .ok db' ↔
      .trustedDomains ∉ db.missing ∧ .projects ∉ db.missing ∧ db.refusal = none ∧
      (row ∈ db.trustedDomains ∨ ∃ p ∈ db.projects, p.id = row.projectId) ∧
      db' = { db with trustedDomains := db.trustedDomains ++ addedDomains row db } := by
  rw [insertTrustedDomain, Database.writable_bind_eq_ok_iff]
  -- A domain that is trusted already is passed over, whatever its project.
  by_cases hrow : row ∈ db.trustedDomains
  · rw [if_pos (by simpa using hrow), ok_eq_ok_iff]
    simp [hrow, and_assoc, addedDomains]
  · simp [hrow, and_assoc, ite_ok_eq_ok_iff, Database.hasProject_eq_true_iff, addedDomains]

theorem insertOrganization_eq_ok_iff {row : OrganizationRow} :
    insertOrganization row db = .ok db' ↔
      .organizations ∉ db.missing ∧ .projects ∉ db.missing ∧ db.refusal = none ∧
      (∀ o ∈ db.organizations, o.id ≠ row.id) ∧ (∃ p ∈ db.projects, p.id = row.projectId) ∧
      db' = { db with organizations := db.organizations ++ [row] } := by
  rw [insertOrganization, Database.writable_bind_eq_ok_iff, ite_error_eq_ok_iff, ite_ok_eq_ok_iff,
    Database.hasOrganization_eq_true_iff, Database.hasProject_eq_true_iff]
  simp [and_assoc]

theorem insertUser_eq_ok_iff {row : UserRow} :
    insertUser row db = .ok db' ↔
      .users ∉ db.missing ∧ .organizations ∉ db.missing ∧ db.refusal = none ∧
      (∀ u ∈ db.users, ¬(u.organizationId = row.organizationId ∧ u.email = row.email)) ∧
      (∀ u ∈ db.users, u.id ≠ row.id) ∧ (∃ o ∈ db.organizations, o.id = row.organizationId) ∧
      db' = { db with users := db.users ++ [row] } := by
  rw [insertUser, Database.writable_bind_eq_ok_iff, ite_error_eq_ok_iff, ite_error_eq_ok_iff,
    ite_ok_eq_ok_iff, Database.hasOrganization_eq_true_iff]
  simp [and_assoc]

theorem insertSigningKey_eq_ok_iff {row : SigningKeyRow} :
    insertSigningKey row db = .ok db' ↔
      .signingKeys ∉ db.missing ∧ .projects ∉ db.missing ∧ db.refusal = none ∧
      (∀ k ∈ db.signingKeys, k.id ≠ row.id) ∧ (∃ p ∈ db.projects, p.id = row.projectId) ∧
      db' = { db with signingKeys := db.signingKeys ++ [row] } := by
  rw [insertSigningKey, Database.writable_bind_eq_ok_iff, ite_error_eq_ok_iff, ite_ok_eq_ok_iff,
    Database.hasProject_eq_true_iff]
  simp [and_assoc]

theorem insertApiKey_eq_ok_iff {row : ApiKeyRow} :
    insertApiKey row db = .ok db' ↔
      .apiKeys ∉ db.missing ∧ .projects ∉ db.missing ∧ db.refusal = none ∧
      (∀ k ∈ db.apiKeys, k.secretDigest ≠ row.secretDigest) ∧
      (∀ k ∈ db.apiKeys, k.id ≠ row.id) ∧ (∃ p ∈ db.projects, p.id = row.projectId) ∧
      db' = { db with apiKeys := db.apiKeys ++ [row] } := by
  rw [insertApiKey, Database.writable_bind_eq_ok_iff, ite_error_eq_ok_iff, ite_error_eq_ok_iff,
    ite_ok_eq_ok_iff, Database.hasProject_eq_true_iff]
  simp [and_assoc]

theorem revokeApiKey_eq_ok_iff {projectId id : Uuid} :
    revokeApiKey projectId id db = .ok db' ↔
      .apiKeys ∉ db.missing ∧ db.refusal = none ∧
      (∃ k ∈ db.apiKeys, k.isKeyOf projectId id = true) ∧
      db' = { db with apiKeys := db.apiKeys.map fun k =>
                if k.isKeyOf projectId id then { k with revoked := true } else k } := by
  rw [revokeApiKey, Database.writable_bind_eq_ok_iff, ite_ok_eq_ok_iff]
  simp

theorem countEmail_eq_ok_iff {projectId : Uuid} {day : Int} :
    countEmail projectId day db = .ok db' ↔
      .quotaUsage ∉ db.missing ∧ .projects ∉ db.missing ∧ db.refusal = none ∧
      ((∃ c ∈ db.quotaUsage, c.isCounterOf projectId day = true) ∧
          db' = { db with quotaUsage := db.quotaUsage.map fun c =>
                    if c.isCounterOf projectId day then c.next else c } ∨
        (∀ c ∈ db.quotaUsage, c.isCounterOf projectId day = false) ∧
          (∃ p ∈ db.projects, p.id = projectId.text) ∧
          db' = { db with quotaUsage := db.quotaUsage ++ [⟨projectId.text, day, 1⟩] }) := by
  rw [countEmail, Database.writable_bind_eq_ok_iff]
  -- The two sides of the disjunction exclude each other, so one of them goes in each case.
  by_cases hcounter : db.quotaUsage.any (·.isCounterOf projectId day) = true
  · have hsome : ∃ c ∈ db.quotaUsage, c.isCounterOf projectId day = true := by
      simpa using hcounter
    have hnone : ¬∀ c ∈ db.quotaUsage, c.isCounterOf projectId day = false := by
      simpa using hsome
    rw [if_pos hcounter, ok_eq_ok_iff]
    simp [hsome, hnone, and_assoc]
  · have hnone : ∀ c ∈ db.quotaUsage, c.isCounterOf projectId day = false := by
      simpa using hcounter
    have hsome : ¬∃ c ∈ db.quotaUsage, c.isCounterOf projectId day = true := by
      simpa using hnone
    rw [if_neg hcounter, ite_ok_eq_ok_iff, Database.hasProject_eq_true_iff]
    simpa [hsome, and_assoc] using fun _ _ _ _ _ _ _ => hnone

end Statement
end Gatehouse
