import Gatehouse.Proofs.Session.Tokens

/-!
# Tokens and their audience

A token names one audience, and each project has an audience of its own under a root domain, though
the underscore of its external id is written as a hyphen there. So no token is verified for two
projects, whatever keys the projects hold, whichever stores they are in and whenever it is tried.
-/

namespace Gatehouse

/-! ## Audiences -/

namespace IdFormat

theorem digitChar_ne_underscore {n : Nat} (h : n < 36) : digitChar n ≠ '_' := by
  revert n
  decide

/-- The digits of an identifier are no underscores, so they stay when underscores are replaced. -/
theorem map_suffix_of_underscore (id : Uuid) (replacement : Char) :
    (suffix id).map (fun ch => if ch = '_' then replacement else ch) = suffix id := by
  have hdigit : ∀ ch ∈ suffix id, (if ch = '_' then replacement else ch) = ch := by
    intro ch hch
    obtain ⟨n, hn, rfl⟩ := List.mem_map.1 hch
    exact if_neg (digitChar_ne_underscore (Positional.lt_of_mem_digits (by decide) hn))
  exact (List.map_congr_left hdigit).trans (List.map_id _)

theorem suffix_injective {a b : Uuid} (h : suffix a = suffix b) : a = b := by
  have hread := ofSuffix?_suffix a
  rw [h, ofSuffix?_suffix] at hread
  exact (Option.some.inj hread).symm

end IdFormat

namespace TokenConfig

/-- The audience of a project is its external id, with a hyphen for the underscore, in front of the
root domain. -/
theorem toList_audience (c : TokenConfig) (projectId : Uuid) :
    (c.audience projectId).toList =
      "https://project-".toList ++ IdFormat.suffix projectId ++
        '.' :: c.audienceRootDomain.toList := by
  have hlabel : (IdFormat.project.label.toList ++ ['_']).map
      (fun ch => if ch = '_' then '-' else ch) = "project-".toList := by
    decide
  have hscheme : "https://project-".toList = "https://".toList ++ "project-".toList := by
    decide
  have hhost : (IdFormat.project.format projectId).toList =
      (IdFormat.project.label.toList ++ ['_']) ++ IdFormat.suffix projectId := by
    rw [IdFormat.toList_format, List.append_assoc, List.singleton_append]
  unfold audience
  rw [String.toList_ofList, hhost, List.map_append, hlabel, IdFormat.map_suffix_of_underscore,
    hscheme]
  simp only [List.append_assoc]

/-- Under one root domain, projects with one audience are one project. -/
theorem audience_injective (c : TokenConfig) : Function.Injective c.audience := by
  intro P Q h
  have htext : (c.audience P).toList = (c.audience Q).toList := by
    rw [h]
  rw [toList_audience, toList_audience] at htext
  -- What stands in front of the digits and behind them is the same for both.
  have hdigits : IdFormat.suffix P = IdFormat.suffix Q :=
    List.append_cancel_left (List.append_cancel_right htext)
  exact IdFormat.suffix_injective hdigits

/-- The audience depends on the root domain alone, and on no other rule. -/
theorem audience_eq_of_root {c c' : TokenConfig} (h : c.audienceRootDomain = c'.audienceRootDomain)
    (projectId : Uuid) : c.audience projectId = c'.audience projectId := by
  unfold audience
  rw [h]

end TokenConfig

/-! ## Tokens -/

namespace SessionToken

variable {σ : Type}

/-- A token has an audience: its claims name it. -/
def HasAudience (token audience : String) : Prop :=
  ∃ t claims, CompactToken.parse? token = some t ∧ Carries t.payload claims ∧
    claims.aud = audience

theorem Carries.unique {payload : String} {claims claims' : SessionClaims}
    (h : Carries payload claims) (h' : Carries payload claims') : claims = claims' := by
  obtain ⟨ms, hpart, hclaims⟩ := h
  obtain ⟨ms', hpart', hclaims'⟩ := h'
  have hsame : Json.object ms = .object ms' := Option.some.inj (hpart.symm.trans hpart')
  rw [hsame] at hclaims
  exact Option.some.inj (hclaims.symm.trans hclaims')

/-- A token has at most one audience. -/
theorem HasAudience.unique {token audience audience' : String} (h : HasAudience token audience)
    (h' : HasAudience token audience') : audience = audience' := by
  obtain ⟨t, claims, ht, hclaims, rfl⟩ := h
  obtain ⟨t', claims', ht', hclaims', rfl⟩ := h'
  obtain rfl : t = t' := Option.some.inj (ht.symm.trans ht')
  rw [hclaims.unique hclaims']

/-- A token that is verified for a project has the audience of that project, whatever the tables
hold. -/
theorem hasAudience_of_verdict [Wording] {c : TokenConfig} {projectId : Uuid} {token : String}
    {now : Int} {db : Database} {identity : SessionIdentity}
    (h : verdict c projectId token now db = .ok identity) :
    HasAudience token (c.audience projectId) := by
  have htell : ∀ {α : Type} {r : Except TokenRejection α} {a : α}, tell r = .ok a → r = .ok a := by
    intro α r a hr
    cases r with
    | error e => cases hr
    | ok b => exact congrArg Except.ok (Except.ok.inj hr)
  -- The name of the key, the active keys and the key come first, then the claims.
  obtain ⟨named, -, h⟩ := Traversal.bind_eq_ok_iff.1 h
  obtain ⟨keys, -, h⟩ := Traversal.bind_eq_ok_iff.1 h
  obtain ⟨key, -, h⟩ := Traversal.bind_eq_ok_iff.1 h
  obtain ⟨claims, hclaims, -⟩ := Traversal.bind_eq_ok_iff.1 h
  obtain ⟨t, ht, -, hcarries, -, haudience⟩ := signedClaims_eq_ok_iff.1 (htell hclaims)
  exact ⟨t, claims, ht, hcarries, haudience⟩

/-- **No token is valid for two projects.** Audiences are different for different projects under
every root domain. A token that is verified for one project is not verified for another under any
rules with the same root domain, whatever is in the two stores and whatever the two clocks show. -/
theorem verify_one_project [Wording] :
    (∀ c : TokenConfig, Function.Injective c.audience) ∧
      ∀ (σ τ : Type) (c c' : TokenConfig) (token : String) (P Q : Uuid) (w : World σ) (w' : World τ)
        (now now' : Int), c.audienceRootDomain = c'.audienceRootDomain → P ≠ Q →
        ¬((∃ identity, ((verify c P token now).run w).1 = .ok identity) ∧
          ∃ identity, ((verify c' Q token now').run w').1 = .ok identity) := by
  refine ⟨TokenConfig.audience_injective, ?_⟩
  rintro σ τ c c' token P Q w w' now now' hroot hne ⟨⟨identity, h⟩, identity', h'⟩
  rw [(reads_verify c P token now w).1] at h
  rw [(reads_verify c' Q token now' w').1] at h'
  have haudience : c.audience P = c'.audience Q :=
    (hasAudience_of_verdict h).unique (hasAudience_of_verdict h')
  rw [← TokenConfig.audience_eq_of_root hroot] at haudience
  exact hne (c.audience_injective haudience)

/-- Another store, in which project 2 holds the console's key. -/
def twinWorld : World Unit where
  tables := { sampleWorld.tables with
    signingKeys := [{ sampleRow with projectId := (Uuid.ofNat 2).text }] }
  protector := ()

/-- The token of the console's owner is verified for the console, and hence not for the other
project with the same key. -/
theorem verify_one_project_twinWorld :
    (∃ identity, ((verify {} (.ofNat 1) sampleToken.render 299).run sampleWorld).1 =
        .ok identity) ∧
      ¬∃ identity, ((verify {} (.ofNat 2) sampleToken.render 299).run twinWorld).1 =
        .ok identity := by
  have hverified : ∃ identity,
      ((verify {} (.ofNat 1) sampleToken.render 299).run sampleWorld).1 = .ok identity :=
    ⟨_, (reads_verify {} _ _ _ sampleWorld).1.trans verdict_sampleToken⟩
  refine ⟨hverified, fun hother => ?_⟩
  exact verify_one_project.2 Unit Unit {} {} sampleToken.render (.ofNat 1) (.ofNat 2) sampleWorld
    twinWorld 299 299 rfl (by decide) ⟨hverified, hother⟩

end SessionToken
end Gatehouse
