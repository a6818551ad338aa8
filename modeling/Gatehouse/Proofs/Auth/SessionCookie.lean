import Gatehouse.Proofs.Auth.Gate

/-!
# Tokens in cookies

A token that comes back in a cookie of the console is checked as it was issued, whatever stands
around it, and the cookies of other consoles make no difference.
-/

namespace Gatehouse
namespace Gate

/-! ## The check of a token in a cookie -/

section Outcome

variable {τ : Type} (g : Gate τ) {procedure : String} {headers : Http.Headers}

/-- The log has no part in the outcome of a check. -/
theorem outcome_check (c : CredentialCheck τ) (credential : String) (w : World τ) :
    ((check c credential).run w).1 = ((c.validate credential).run w).1 := by
  rw [check, Call.run_bind, Call.run_attempt]
  dsimp only
  cases ((c.validate credential).run w).1 <;> rfl

/-- What the gate makes of the identity behind a call; inside its span the log starts anew. -/
theorem outcome_authenticate (hprocedure : procedure ∉ skipProcedures) (w : World τ) :
    ((g.authenticate procedure headers).run w).1 =
      contextOf procedure ((g.identify procedure headers).run { w with log := [] }).1 := by
  have hskip : ¬skipProcedures.contains procedure = true := by
    rwa [List.contains_iff_mem]
  rw [authenticate, if_neg hskip, contextOf]
  show ((g.identify procedure headers >>= _).run { w with log := [] }).1 = _
  rw [Call.run_bind]
  rcases (g.identify procedure headers).run { w with log := [] } with ⟨_ | _, _⟩ <;> rfl

theorem identify_of_takesCookie (h : TakesCookie headers) :
    g.identify procedure headers = g.authenticateCookie headers := by
  rw [identify, h.filter_eq_none]

/-- The outcome for the last cookie with the console's name, if there is one and it has a value. -/
theorem outcome_of_last? (hprocedure : procedure ∉ skipProcedures) (hheaders : TakesCookie headers)
    {token : String} (htoken : token ≠ "") (w : World τ)
    (hlast : Cookie.last? (headers.values "cookie") (cookieName g.consoleProjectId) = some token) :
    ((g.authenticate procedure headers).run w).1 =
      contextOf procedure ((g.cookie.validate token).run { w with log := [] }).1 := by
  rw [outcome_authenticate g hprocedure, identify_of_takesCookie g hheaders, authenticateCookie,
    hlast]
  dsimp only
  rw [if_neg htoken, outcome_check]

/-- Without a cookie of the console's name no credential is checked. -/
theorem outcome_of_last?_eq_none (hprocedure : procedure ∉ skipProcedures)
    (hheaders : TakesCookie headers) (w : World τ)
    (hlast : Cookie.last? (headers.values "cookie") (cookieName g.consoleProjectId) = none) :
    ((g.authenticate procedure headers).run w).1 = .error .unauthenticated := by
  rw [outcome_authenticate g hprocedure, identify_of_takesCookie g hheaders, authenticateCookie,
    hlast]
  rfl

/-- Headers without authorization are told apart by the last cookie of the console alone. -/
theorem authenticate_congr {headers' : Http.Headers} (hheaders : TakesCookie headers)
    (hheaders' : TakesCookie headers')
    (hlast : Cookie.last? (headers'.values "cookie") (cookieName g.consoleProjectId) =
      Cookie.last? (headers.values "cookie") (cookieName g.consoleProjectId)) :
    g.authenticate procedure headers' = g.authenticate procedure headers := by
  rw [authenticate, authenticate, identify_of_takesCookie g hheaders,
    identify_of_takesCookie g hheaders', authenticateCookie, authenticateCookie, hlast]

end Outcome

/-- The check of sessions says of a token what its verification does, whatever is in the log. -/
theorem outcome_sessions [Wording] {τ : Type} (config : TokenConfig) (consoleProjectId : Uuid)
    (now : Int) (token : String) (w w' : World τ) (h : w'.tables = w.tables) :
    (((CredentialCheck.sessions config consoleProjectId now).validate token).run w').1 =
      (((SessionToken.verify config consoleProjectId token now).run w).1.mapError
        AuthError.ofSession).map .ofSession := by
  have hread := (SessionToken.reads_verify (σ := τ) config consoleProjectId token now)
  have hsession := (hread.mapError AuthError.ofSession).bind fun i =>
    Call.reads_pure (Identity.ofSession i)
  rw [(hread w).1]
  refine (hsession w').1.trans ?_
  dsimp only
  rw [h]
  cases SessionToken.verdict config consoleProjectId token now w.tables <;> rfl

/-- **The way of a token through a cookie.** A token that is issued and comes back in a cookie of
the console is checked as it is, whatever stands around it, and the call has the outcome of the
check. Cookies of other consoles make no difference, and alone they give no credential to check. -/
theorem authenticate_issued [Wording] {σ τ : Type} {keys : SigningKeys σ} {c : TokenConfig}
    {seed : Bytes} {subject : SessionSubject} {issuedAt : Int} {w : World σ} {issued : IssuedToken}
    (hissue : ((SessionToken.issue keys c seed subject issuedAt).run w).1 = .ok issued)
    {procedure : String} (hprocedure : procedure ∉ skipProcedures) {headers : Http.Headers}
    (hheaders : TakesCookie headers) (g : Gate τ) (w' : World τ) :
    let outcome := ((g.authenticate procedure headers).run w').1
    (Cookie.Offers (headers.values "cookie") (cookieName g.consoleProjectId) issued.accessToken →
      outcome = ((g.cookie.validate issued.accessToken).run { w' with log := [] }).1.map
        (fun identity => ⟨procedure, some identity⟩) ∧
      ∀ config now, g = ofServices config g.consoleProjectId now →
        outcome = (((SessionToken.verify config g.consoleProjectId issued.accessToken now).run
          w').1.mapError AuthError.ofSession).map fun i => ⟨procedure, some (.ofSession i)⟩) ∧
    (∀ (headers' : Http.Headers) ps ps', TakesCookie headers' →
      Cookie.AllPairs (headers.values "cookie") ps →
      Cookie.AllPairs (headers'.values "cookie") ps' →
      Cookie.Inserts (OfOther g.consoleProjectId) ps ps' →
      g.authenticate procedure headers' = g.authenticate procedure headers) ∧
    ((∀ ps, Cookie.AllPairs (headers.values "cookie") ps →
      ∀ p ∈ ps, OfOther g.consoleProjectId p) → outcome = .error .unauthenticated) := by
  intro outcome
  refine ⟨fun hoffers => ?_, fun headers' ps ps' hheaders' hps hps' hinserts => ?_,
    fun hothers => ?_⟩
  -- Token and name are inert, so the last cookie of the name has the token as it is.
  · have hlast := Cookie.last?_of_offers (inert_cookieName g.consoleProjectId)
      (SessionToken.inert_issued hissue) hoffers
    have houtcome := outcome_of_last? g hprocedure hheaders (SessionToken.issued_ne_empty hissue) w'
      hlast
    refine ⟨houtcome, fun config now hg => ?_⟩
    have hcookie : g.cookie = .sessions config g.consoleProjectId now := congrArg Gate.cookie hg
    show ((g.authenticate procedure headers).run w').1 = _
    rw [houtcome, hcookie, outcome_sessions config _ now _ w' { w' with log := [] } rfl, contextOf]
    cases ((SessionToken.verify config g.consoleProjectId issued.accessToken now).run w').1 <;> rfl
  · have hpassed := hinserts.mono fun p hp => passedOver_of_ofOther hp
    refine authenticate_congr g hheaders hheaders' ?_
    rw [Cookie.last?_eq, Cookie.last?_eq, ← Cookie.allPairs_iff.1 hps, ← Cookie.allPairs_iff.1 hps']
    exact Cookie.lastOf?_of_inserts hpassed
  · have hnone := Cookie.lastOf?_eq_none_iff.2 fun p hp =>
      passedOver_of_ofOther (hothers _ (Cookie.allPairs_iff.2 rfl) p hp)
    exact outcome_of_last?_eq_none g hprocedure hheaders w' hnone

/-- The session of the console's owner is known by the cookie. -/
theorem authenticate_issued_sampleSubject :
    ∃ issued, ((SessionToken.issue ⟨.clear, 1000⟩ {} [2] SessionToken.sampleSubject 0).run
        SessionToken.sampleWorld).1 = .ok issued ∧
      Cookie.Offers (sampleHeaders.values "cookie") (cookieName (.ofNat 1)) issued.accessToken ∧
      (((ofServices {} (.ofNat 1) 299).authenticate "/portier.backend.v1.BackendService/GetProject"
        sampleHeaders).run SessionToken.sampleWorld).1 =
        .ok ⟨"/portier.backend.v1.BackendService/GetProject",
          some (.consoleSession ⟨.ofNat 3, .ofNat 4, .ofNat 2, .ofNat 1⟩)⟩ := by
  have hprocedure : "/portier.backend.v1.BackendService/GetProject" ∉ skipProcedures := by decide
  have houtcome := ((authenticate_issued SessionToken.issue_sampleSubject hprocedure
    takesCookie_sampleHeaders (ofServices {} (.ofNat 1) 299) SessionToken.sampleWorld).1
    offers_sampleHeaders).2 {} 299 rfl
  refine ⟨_, SessionToken.issue_sampleSubject, offers_sampleHeaders, houtcome.trans ?_⟩
  rw [(SessionToken.reads_verify _ _ _ _ _).1]
  dsimp only [ofServices]
  rw [SessionToken.verdict_sampleToken]
  rfl

end Gate
end Gatehouse
