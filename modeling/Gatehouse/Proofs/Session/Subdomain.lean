import Gatehouse.Proofs.Session.Provisioning

/-!
# Domains by their labels

The rule for the vault domain of a console looks at the end of a text only. What it accepts is said
here by labels, the dot-free pieces that stand before the console's domain, each with a dot after it.
A domain can be read so in one way at most. The rule accepts every domain that can be read so, except
the console's domain with nothing but a dot before it. So it refuses a lone empty label, but not an
empty label among others.
-/

namespace Gatehouse.Provisioning

/-! ## Labels in front of a domain -/

/-- Labels, each with a dot after it. -/
def dotted : List String → String
  | [] => ""
  | label :: labels => label ++ "." ++ dotted labels

/-- A domain is written as dot-free labels, each with a dot after it, and then another domain. -/
structure Prepends (labels : List String) (domain parent : String) : Prop where
  dotFree : ∀ label ∈ labels, '.' ∉ label.toList
  domain_eq : domain = dotted labels ++ parent

/-- A domain is another one or lies below it: there are labels in front, and none is empty. -/
def Below (domain parent : String) : Prop :=
  domain = parent ∨ ∃ labels, labels ≠ [] ∧ "" ∉ labels ∧ Prepends labels domain parent

theorem toList_dotted_cons (label : String) (labels : List String) :
    (dotted (label :: labels)).toList = label.toList ++ '.' :: (dotted labels).toList := by
  rw [dotted, String.toList_append, String.toList_append, List.append_assoc]
  rfl

/-- Cut at its dots, a text of labels gives them back, and nothing after the last dot. -/
theorem splitOn_dotted {labels : List String} (h : ∀ label ∈ labels, '.' ∉ label.toList) :
    (dotted labels).toList.splitOn '.' = labels.map String.toList ++ [[]] := by
  induction labels with
  | nil => rfl
  | cons label labels ih =>
    obtain ⟨hlabel, hlabels⟩ := List.forall_mem_cons.1 h
    rw [toList_dotted_cons, List.splitOn_append_cons_self_of_not_mem hlabel, ih hlabels]
    rfl

theorem dotted_injective {labels labels' : List String}
    (h : ∀ label ∈ labels, '.' ∉ label.toList) (h' : ∀ label ∈ labels', '.' ∉ label.toList)
    (heq : dotted labels = dotted labels') : labels = labels' := by
  have hpieces : labels.map String.toList ++ [[]] = labels'.map String.toList ++ [[]] := by
    rw [← splitOn_dotted h, ← splitOn_dotted h', heq]
  exact List.map_injective_iff.2 (fun _ _ => String.toList_inj.1)
    (List.append_cancel_right hpieces)

/-- Every text with a dot after it is one of labels. -/
theorem exists_dotted (text : String) : ∃ labels,
    (∀ label ∈ labels, '.' ∉ label.toList) ∧ dotted labels = text ++ "." := by
  suffices h : ∀ cs : List Char, ∃ label labels, (∀ l ∈ label :: labels, '.' ∉ l.toList) ∧
      (dotted (label :: labels)).toList = cs ++ ['.'] by
    obtain ⟨label, labels, hfree, htext⟩ := h text.toList
    refine ⟨label :: labels, hfree, String.toList_inj.1 ?_⟩
    rw [htext, String.toList_append]
    rfl
  intro cs
  induction cs with
  | nil => exact ⟨"", [], by simp, rfl⟩
  | cons c cs ih =>
    obtain ⟨label, labels, hfree, htext⟩ := ih
    by_cases hdot : c = '.'
    · -- A dot in front ends an empty label.
      subst hdot
      refine ⟨"", label :: labels, List.forall_mem_cons.2 ⟨by simp, hfree⟩, ?_⟩
      rw [toList_dotted_cons, htext]
      rfl
    · -- Any other character belongs to the first label.
      obtain ⟨hlabel, hlabels⟩ := List.forall_mem_cons.1 hfree
      refine ⟨String.ofList (c :: label.toList), labels, List.forall_mem_cons.2 ⟨?_, hlabels⟩, ?_⟩
      · rw [String.toList_ofList, List.mem_cons, not_or]
        exact ⟨Ne.symm hdot, hlabel⟩
      · rw [toList_dotted_cons] at htext ⊢
        rw [String.toList_ofList, List.cons_append, htext]
        rfl

theorem exists_dotted_eq {labels : List String} (h : labels ≠ []) :
    ∃ text, dotted labels = text ++ "." := by
  induction labels with
  | nil => exact absurd rfl h
  | cons label labels ih =>
    cases labels with
    | nil => exact ⟨label, String.append_empty⟩
    | cons next labels =>
      obtain ⟨text, htext⟩ := ih (List.cons_ne_nil _ _)
      exact ⟨label ++ "." ++ text, by rw [dotted, htext, ← String.append_assoc]⟩

section Rule

variable {domain parent : String} {labels : List String}

theorem Prepends.unique {labels' : List String} (h : Prepends labels domain parent)
    (h' : Prepends labels' domain parent) : labels = labels' := by
  refine dotted_injective h.dotFree h'.dotFree ((String.append_left_inj parent).1 ?_)
  rw [← h.domain_eq, ← h'.domain_eq]

theorem prepends_nil_iff : Prepends [] domain parent ↔ domain = parent := by
  constructor
  · exact fun h => h.domain_eq.trans String.empty_append
  · exact fun h => ⟨nofun, h.trans String.empty_append.symm⟩

/-! ## What the rule accepts -/

theorem below_iff : Below domain parent ↔ ∃ labels, Prepends labels domain parent ∧ "" ∉ labels := by
  constructor
  · rintro (heq | ⟨labels, -, hfull, hreads⟩)
    · exact ⟨[], prepends_nil_iff.2 heq, List.not_mem_nil⟩
    · exact ⟨labels, hreads, hfull⟩
  · rintro ⟨labels, hreads, hfull⟩
    rcases eq_or_ne labels [] with rfl | hne
    · exact .inl (prepends_nil_iff.1 hreads)
    · exact .inr ⟨labels, hne, hfull, hreads⟩

/-- What the rule accepts can be read by labels, and is not a lone empty one. -/
theorem under_iff_prepends :
    Under domain parent ↔ ∃ labels, Prepends labels domain parent ∧ labels ≠ [""] := by
  constructor
  · rintro (heq | ⟨text, htext, rfl⟩)
    · exact ⟨[], prepends_nil_iff.2 heq, nofun⟩
    · obtain ⟨labels, hfree, hdotted⟩ := exists_dotted text
      refine ⟨labels, ⟨hfree, by rw [hdotted]⟩, ?_⟩
      rintro rfl
      exact htext ((String.append_left_inj ".").1 hdotted.symm)
  · rintro ⟨labels, hreads, hne⟩
    rcases eq_or_ne labels [] with rfl | hsome
    · exact .inl (prepends_nil_iff.1 hreads)
    · obtain ⟨text, htext⟩ := exists_dotted_eq hsome
      refine .inr ⟨text, ?_, by rw [hreads.domain_eq, htext]⟩
      -- A single dot can only be read as the one empty label.
      rintro rfl
      exact hne (dotted_injective hreads.dotFree (by simp) htext)

theorem Below.under (h : Below domain parent) : Under domain parent := by
  obtain ⟨labels, hreads, hfull⟩ := below_iff.1 h
  refine under_iff_prepends.2 ⟨labels, hreads, ?_⟩
  rintro rfl
  exact hfull List.mem_cons_self

/-- What the rule accepts beyond the domains below has an empty label, though not only that. -/
theorem under_and_not_below_iff : Under domain parent ∧ ¬ Below domain parent ↔
    ∃ labels, Prepends labels domain parent ∧ "" ∈ labels ∧ labels ≠ [""] := by
  constructor
  · rintro ⟨hunder, hbelow⟩
    obtain ⟨labels, hreads, hne⟩ := under_iff_prepends.1 hunder
    refine ⟨labels, hreads, ?_, hne⟩
    by_contra hfull
    exact hbelow (below_iff.2 ⟨labels, hreads, hfull⟩)
  · rintro ⟨labels, hreads, hempty, hne⟩
    refine ⟨under_iff_prepends.2 ⟨labels, hreads, hne⟩, fun hbelow => ?_⟩
    -- Without an empty label it would have to be read in another way.
    obtain ⟨labels', hreads', hfull⟩ := below_iff.1 hbelow
    exact hfull (hreads.unique hreads' ▸ hempty)

/-- An ending in common is not enough: what stands before it has to end with a dot. -/
theorem exists_append_dot_of_under (h : Under domain parent) {front : String} (hfront : front ≠ "")
    (hdomain : domain = front ++ parent) : ∃ labels, labels ≠ "" ∧ front = labels ++ "." := by
  subst hdomain
  rcases h with heq | ⟨labels, hlabels, heq⟩
  · exact absurd ((String.append_left_inj parent).1 (heq.trans String.empty_append.symm)) hfront
  · exact ⟨labels, hlabels, (String.append_left_inj parent).1 heq⟩

end Rule

/-! ## A console's vault domain -/

section Calls

variable {σ : Type}

theorem requireText_of_shows {field value : String} (h : Text.Shows value) :
    requireText field value = .ok () :=
  (demands_requireText field value).eq_ok_iff.2 h

/-- The failure that tells a vault domain outside the console's domain. -/
def ConsoleRequest.outside (r : ConsoleRequest) : SessionError :=
  .invalidInput
    s!"vault domain {r.vaultDomain} must be a subdomain of console domain {r.consoleDomain}"

/-- A request whose fields all show something is refused for its vault domain only. -/
theorem ConsoleRequest.check_of_not_under {r : ConsoleRequest} (hemail : Text.Shows r.rootUserEmail)
    (hconsole : Text.Shows r.consoleDomain) (hvault : Text.Shows r.vaultDomain)
    (h : ¬ Under r.vaultDomain r.consoleDomain) : r.check = .error r.outside := by
  have hrule : ¬ isSameOrSubdomain r.vaultDomain r.consoleDomain = true :=
    fun haccepted => h (isSameOrSubdomain_iff.1 haccepted)
  rw [check, requireText_of_shows hemail, requireText_of_shows hconsole,
    requireText_of_shows hvault, if_neg hrule]
  rfl

/-- **The rule for vault domains, by labels.** A domain is written as labels in front of another one
in one way at most. The rule accepts it exactly if it can be written so and the labels are not a lone
empty one. So it accepts the domain itself and every domain below it; what it accepts besides are
exactly the domains with an empty label among others. Another text with the same ending is refused
unless a dot stands before that ending. Making a console follows the rule: with fields that show
something, a request that breaks it is refused with both domains in the failure and changes nothing,
and in a new store, if the signing key can be made, exactly the requests that keep it are granted. -/
theorem vault_domain_by_labels (domain parent : String) :
    (isSameOrSubdomain domain parent = true ↔
      ∃ labels, Prepends labels domain parent ∧ labels ≠ [""]) ∧
    (∀ labels labels', Prepends labels domain parent → Prepends labels' domain parent →
      labels = labels') ∧
    (Below domain parent → isSameOrSubdomain domain parent = true) ∧
    (isSameOrSubdomain domain parent = true ∧ ¬ Below domain parent ↔
      ∃ labels, Prepends labels domain parent ∧ "" ∈ labels ∧ labels ≠ [""]) ∧
    (∀ front, front ≠ "" → (∀ labels, front ≠ labels ++ ".") →
      isSameOrSubdomain (front ++ parent) parent = false) ∧
    ∀ (keys : SigningKeys σ) (hash : String → String) (email : String) (draw : ConsoleDraw)
      (now : Int) (w : World σ),
      let r : ConsoleRequest := ⟨email, parent, domain⟩
      let outcome := (createConsole keys hash r draw now).run w
      Text.Shows email → Text.Shows parent → Text.Shows domain →
      (isSameOrSubdomain domain parent = false → outcome = (.error r.outside, w)) ∧
      (w.tables = .empty →
        (∃ blob, (keys.protector.encrypt (PrivateKey.ofSeed draw.key.seed).toPkcs8 w.protector).1 =
          .ok blob) →
        keys.lifetime < Limit.bits63 →
        ((∃ console, outcome.1 = .ok console) ↔ isSameOrSubdomain domain parent = true)) := by
  refine ⟨isSameOrSubdomain_iff.trans under_iff_prepends, fun _ _ => Prepends.unique,
    fun h => isSameOrSubdomain_iff.2 h.under,
    (and_congr_left' isSameOrSubdomain_iff).trans under_and_not_below_iff, ?_, ?_⟩
  · intro front hfront hdot
    rw [Bool.eq_false_iff]
    intro haccepted
    obtain ⟨labels, -, heq⟩ :=
      exists_append_dot_of_under (isSameOrSubdomain_iff.1 haccepted) hfront rfl
    exact hdot labels heq
  · intro keys hash email draw now w r outcome hemail hparent hdomain
    constructor
    · intro hrefused
      have hunder : ¬ Under r.vaultDomain r.consoleDomain :=
        fun h => Bool.eq_false_iff.1 hrefused (isSameOrSubdomain_iff.2 h)
      have hcheck : r.check = .error r.outside :=
        ConsoleRequest.check_of_not_under hemail hparent hdomain hunder
      show (createConsole keys hash r draw now).run w = _
      rw [createConsole, hcheck]
      rfl
    · intro hw hencrypt hlifetime
      rw [createConsole_empty hw, isSameOrSubdomain_iff]
      constructor
      · exact fun h => h.1.under
      · exact fun h => ⟨⟨hemail, hparent, hdomain, h⟩, hencrypt, hlifetime⟩

/-- A bootstrap whose vault domain has two empty labels in front of the console's domain. -/
def emptyLabelsRequest : ConsoleRequest :=
  ⟨"root@example.com", "console.example.com", "..console.example.com"⟩

theorem prepends_emptyLabels : Prepends ["", ""] emptyLabelsRequest.vaultDomain
    emptyLabelsRequest.consoleDomain :=
  ⟨by simp, rfl⟩

theorem shows_emptyLabelsRequest : Text.Shows emptyLabelsRequest.rootUserEmail ∧
    Text.Shows emptyLabelsRequest.consoleDomain ∧ Text.Shows emptyLabelsRequest.vaultDomain := by
  refine ⟨Text.isBlankText_eq_false_iff.1 ?_, Text.isBlankText_eq_false_iff.1 ?_,
    Text.isBlankText_eq_false_iff.1 ?_⟩
  · decide +kernel
  · decide +kernel
  · decide +kernel

/-- In a new store a console is made with two dots in front of the console's domain as its vault
domain, though that is not below the console's domain. -/
theorem vault_domain_by_labels_empty :
    ¬ Below emptyLabelsRequest.vaultDomain emptyLabelsRequest.consoleDomain ∧
    ∃ console, ((createConsole ⟨.clear, 60⟩ id emptyLabelsRequest Service.sampleDraw 0).run
      newWorld).1 = .ok console := by
  obtain ⟨-, -, -, hbeyond, -, hcalls⟩ :=
    @vault_domain_by_labels Unit emptyLabelsRequest.vaultDomain emptyLabelsRequest.consoleDomain
  obtain ⟨haccepted, hbelow⟩ := hbeyond.2
    ⟨_, prepends_emptyLabels, List.mem_cons_self, by decide⟩
  obtain ⟨hemail, hconsole, hvault⟩ := shows_emptyLabelsRequest
  obtain ⟨-, hmade⟩ := hcalls ⟨.clear, 60⟩ id _ Service.sampleDraw 0 newWorld hemail hconsole hvault
  exact ⟨hbelow, (hmade rfl ⟨_, rfl⟩ (by decide)).2 haccepted⟩

/-- The rule is not that a domain is the console's one or below it: two dots in front of the
console's domain are two empty labels, and are accepted. -/
theorem vault_domain_not_below : ¬ ∀ domain parent : String, Text.Shows domain →
    Text.Shows parent → (isSameOrSubdomain domain parent = true ↔ Below domain parent) := by
  intro h
  obtain ⟨-, hconsole, hvault⟩ := shows_emptyLabelsRequest
  obtain ⟨haccepted, hbelow⟩ := under_and_not_below_iff.2
    ⟨_, prepends_emptyLabels, List.mem_cons_self, by decide⟩
  exact hbelow ((h _ _ hvault hconsole).1 (isSameOrSubdomain_iff.2 haccepted))

end Calls

end Gatehouse.Provisioning
