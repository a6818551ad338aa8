import Gatehouse.Proofs.Store.Effect

/-!
# Reachable tables are coherent

Reachable tables conform to the schema, and the projects in them are governed: one of them is the
console, which owns the organizations, and organizations and projects belong together one to one.
The second property holds between operations only, since a project and its organization are written
one after the other.
-/

namespace Gatehouse

/-- The projects are governed. -/
structure Database.Governed (db : Database) : Prop where
  /-- The organizations manage the projects, in the order in which both were made. -/
  managed : db.projects.map (·.organizationId) = db.organizations.map fun o => some o.id
  /-- Where there are projects, one of them is the console. -/
  console : db.projects ≠ [] → ∃ p ∈ db.projects, p.isConsole = true
  /-- The console owns the organizations. -/
  owned : ∀ p ∈ db.projects, p.isConsole = true → ∀ o ∈ db.organizations, o.projectId = p.id
  /-- A project trusts the domain of its cookies. -/
  cookies : ∀ p ∈ db.projects, ⟨p.id, p.cookieDomain⟩ ∈ db.trustedDomains

namespace Database

variable {db : Database}

theorem governed_empty : empty.Governed := by
  constructor <;> simp [empty]

end Database

namespace Store

open Database

variable {db : Database}

/-! ## Steps -/

theorem governed_createConsoleProject (p : NewConsoleProject) : p.tables.Governed where
  managed := rfl
  console _ := ⟨p.linkedRow, List.mem_singleton.2 rfl, rfl⟩
  owned := by
    intro q hq _ o ho
    rw [List.mem_singleton.1 hq, List.mem_singleton.1 ho]
    rfl
  cookies := by
    intro q hq
    rw [List.mem_singleton.1 hq]
    exact List.mem_cons_self

theorem governed_createProject {p : NewProject} (hp : p.Fits db) (hdb : db.Conforms)
    (hgov : db.Governed) : (p.tables db).Governed where
  managed := by
    rw [NewProject.tables, List.map_append, List.map_append, hgov.managed]
    rfl
  console _ := by
    obtain ⟨row, hrow, hconsole⟩ := hp.console
    exact ⟨row, List.mem_append_left _ (mem_of_project?_eq_some hrow).1, hconsole⟩
  owned := by
    obtain ⟨row, hrow, hconsole⟩ := hp.console
    obtain ⟨hmem, hid⟩ := mem_of_project?_eq_some hrow
    intro q hq hqconsole o ho
    -- The new project is no console, so the console is where it was.
    have hq' : q ∈ db.projects := by
      rcases List.mem_append.1 hq with hq | hq
      · exact hq
      · rw [List.mem_singleton.1 hq] at hqconsole
        cases hqconsole
    rcases List.mem_append.1 ho with ho | ho
    · exact hgov.owned q hq' hqconsole o ho
    · rw [List.mem_singleton.1 ho, hdb.consoles q hq' row hmem hqconsole hconsole]
      exact hid.symm
  cookies := by
    intro q hq
    rcases List.mem_append.1 hq with hq | hq
    · exact List.mem_append_left _ (hgov.cookies q hq)
    · rw [List.mem_singleton.1 hq]
      exact Statement.mem_append_addedDomains p.domainRow db

theorem governed_map_projects {change : ProjectRow → ProjectRow} (h : Statement.Harmless change)
    (hgov : db.Governed) :
    ({ db with projects := db.projects.map change } : Database).Governed where
  managed := by
    have hsame := map_map_of_eq h.organizationId db.projects
    exact hsame.trans hgov.managed
  console hne := by
    obtain ⟨p, hp, hconsole⟩ := hgov.console (by simpa using hne)
    exact ⟨change p, List.mem_map_of_mem hp, (h.isConsole p).trans hconsole⟩
  owned := by
    simp only [List.forall_mem_map, h.isConsole, h.id]
    exact hgov.owned
  cookies := by
    simp only [List.forall_mem_map, h.id, h.cookieDomain]
    exact hgov.cookies

/-- Every operation keeps the projects governed, whatever its arguments. -/
theorem Command.governed_after (c : Command) (hdb : db.Conforms) (hgov : db.Governed) :
    (c.after db).Governed := by
  rcases c.after_cases hdb with hsame | ⟨hfits, heffect⟩
  · rw [hsame]
    exact hgov
  · rw [heffect]
    cases c with
    | createConsoleProject p => exact governed_createConsoleProject p
    | createProject p => exact governed_createProject hfits hdb hgov
    | updateProject u => exact governed_map_projects (u.harmless_change.ite _) hgov
    | createSigningKey key => exact { hgov with }
    | createApiKey key => exact { hgov with }
    | revokeApiKey projectId id => exact { hgov with }
    | countEmail projectId day => exact { hgov with }

end Store
end Gatehouse
