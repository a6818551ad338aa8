import Gatehouse.Proofs.Auth.Secrecy
import Gatehouse.Proofs.Session.Secrecy
import Gatehouse.Proofs.Session.Tokens

/-!
# What the log tells of secrets

Nothing that the service draws or is shown in confidence reaches the log or a failure: not the bits
of an API key, the first password and its hash, the private half of a signing key, its ciphertext or
the randomness of a signature, nor a secret that is presented and refused. Errands with the same
arguments, ids and clock are run twice, from twin worlds and with different secrets.
-/

namespace Gatehouse.Secrecy

open Call (Agree)

variable {σ : Type} {w v : World σ}

/-! ## Errands -/

/-- A call of the service with all its arguments that are no secrets, ids and clock included. -/
inductive Errand where
  | createApiKey (id projectId : Uuid) (displayName : String) (authenticationOnly : Bool)
      (now : Int)
  | authenticate
  | createConsole (lifetime : Nat) (r : Provisioning.ConsoleRequest)
      (projectId organizationId userId keyId : Uuid) (now : Int)
  | createProject (lifetime : Nat) (r : Provisioning.ProjectRequest)
      (projectId organizationId keyId : Uuid) (now : Int)
  | createSigningKey (lifetime : Nat) (keyId projectId : Uuid) (now : Int)
  | issue (lifetime : Nat) (config : TokenConfig) (subject : SessionSubject) (now : Int)

/-- All that an errand draws or is shown in confidence. -/
structure Secrets (σ : Type) where
  /-- The bits of a new API key. -/
  apiKey : Uuid
  /-- The secret that is presented. -/
  presented : String
  /-- The bytes of the owner's password. -/
  password : Bytes
  /-- What a password is hashed to. -/
  hash : String → String
  /-- The bytes that the private half of a signing key is made of. -/
  seed : Bytes
  /-- The random bytes of a signature. -/
  signature : Bytes
  /-- What encrypts private halves, and decrypts them. -/
  protector : KeyProtector σ

/-- A failure that comes from the store. The making of an API key fails in no other way. -/
def InStore : AuthError ⊕ SessionError → Prop
  | .inl _ => True
  | .inr e => e.OfStore

namespace Errand

variable [Wording]

/-- The call of an errand with some secrets. Of its end only failures are told. -/
def call (e : Errand) (s : Secrets σ) : Call σ (AuthError ⊕ SessionError) Unit :=
  match e with
  | createApiKey id projectId displayName authenticationOnly now =>
    (ApiKeys.create ⟨id, s.apiKey⟩ projectId displayName authenticationOnly now).ending .inl
  | authenticate => (ApiKeys.authenticate s.presented).ending .inl
  | createConsole lifetime r projectId organizationId userId keyId now =>
    (Provisioning.createConsole ⟨s.protector, lifetime⟩ s.hash r
      ⟨projectId, organizationId, userId, s.password, ⟨keyId, s.seed⟩⟩ now).ending .inr
  | createProject lifetime r projectId organizationId keyId now =>
    (Provisioning.createProject ⟨s.protector, lifetime⟩ r
      ⟨projectId, organizationId, ⟨keyId, s.seed⟩⟩ now).ending .inr
  | createSigningKey lifetime keyId projectId now =>
    (SigningKeys.create ⟨s.protector, lifetime⟩ ⟨keyId, s.seed⟩ projectId now).ending .inr
  | issue lifetime config subject now =>
    (SessionToken.issue ⟨s.protector, lifetime⟩ config s.signature subject now).ending .inr

/-- Two draws of secrets fare alike in two worlds: the digests of two API keys are both taken or
both free, two presented secrets are of one class, and two key protectors answer alike if they are
asked. What they decrypt can be decoded both times, or is wrong for the same reason. -/
def Alike (e : Errand) (s s' : Secrets σ) (w v : World σ) : Prop :=
  match e with
  | createApiKey .. => ApiKeys.Taken s.apiKey w.tables ↔ ApiKeys.Taken s'.apiKey v.tables
  | authenticate => ApiKeys.SameClass s.presented s'.presented w.tables v.tables
  -- A request that is refused never gets as far as the key protector.
  | createConsole _ r .. =>
    r.check = .ok () → EncryptAlike s.protector s'.protector s.seed s'.seed w v
  | createProject _ r .. =>
    r.check = .ok () → EncryptAlike s.protector s'.protector s.seed s'.seed w v
  | createSigningKey .. => EncryptAlike s.protector s'.protector s.seed s'.seed w v
  | issue _ _ subject now =>
    SignersAlike subject.projectId now (ReadAlike s.protector s'.protector) w v

theorem agree_call (e : Errand) (s s' : Secrets σ) (h : w.Twins v) :
    Agree (e.Alike s s' w v) Eq ((e.call s).run w) ((e.call s').run v) := by
  cases e with
  | createApiKey id projectId displayName authenticationOnly now =>
    exact (ApiKeys.agree_create id projectId displayName authenticationOnly now h s.apiKey
      s'.apiKey).ending _
  | authenticate => exact (ApiKeys.agree_authenticate h s.presented s'.presented).ending _
  | createConsole lifetime r projectId organizationId userId keyId now =>
    exact (agree_createConsole lifetime h s.hash s'.hash r projectId organizationId userId keyId now
      s.password s'.password s.seed s'.seed).ending _
  | createProject lifetime r projectId organizationId keyId now =>
    exact (agree_createProject lifetime h r projectId organizationId keyId now s.seed
      s'.seed).ending _
  | createSigningKey lifetime keyId projectId now =>
    exact (agree_createSigningKey lifetime h keyId projectId now s.seed s'.seed).ending _
  | issue lifetime config subject now =>
    exact (agree_issue s.protector s'.protector lifetime now h config subject s.signature
      s'.signature).ending _

/-- An errand that fails leaves the tables as they were. -/
theorem atomic_call {e : Errand} (he : e ≠ .authenticate) (s : Secrets σ) :
    Call.Atomic (e.call s) := by
  cases e with
  | createApiKey id projectId displayName authenticationOnly now =>
    exact (Provisioning.atomic_createApiKey _ _ _ _ _).ending _
  | authenticate => exact absurd rfl he
  | createConsole lifetime r projectId organizationId userId keyId now =>
    exact (Provisioning.atomic_createConsole _ _ _ _ _).ending _
  | createProject lifetime r projectId organizationId keyId now =>
    exact (Provisioning.atomic_createProject _ _ _ _).ending _
  | createSigningKey lifetime keyId projectId now =>
    exact (Provisioning.atomic_createSigningKey _ _ _ _).ending _
  | issue lifetime config subject now => exact (keeps_issue _ _ _ _ _).atomic.ending _

/-- Two runs that fail leave the same log, if both or none of them fail in the store. -/
theorem log_of_errors {e : Errand} (he : e ≠ .authenticate) {s s' : Secrets σ}
    {f f' : AuthError ⊕ SessionError} (h : w.Twins v) (hfail : ((e.call s).run w).1 = .error f)
    (hfail' : ((e.call s').run v).1 = .error f') (hstore : InStore f ↔ InStore f') :
    ((e.call s).run w).2.log = ((e.call s').run v).2.log := by
  cases e with
  | createApiKey id projectId displayName authenticationOnly now =>
    exact Call.log_ending_eq
      (fun _ _ hg hg' _ => ApiKeys.log_create_of_error _ _ _ _ _ h hg hg') hfail hfail' hstore
  | authenticate => exact absurd rfl he
  | createConsole lifetime r projectId organizationId userId keyId now =>
    refine Call.log_ending_eq (fun g g' hg hg' hsame => ?_) hfail hfail' hstore
    exact log_of_session_errors h (discreet_createConsole _ _ _ _ _)
      (discreet_createConsole _ _ _ _ _) (agree_createConsole lifetime h s.hash s'.hash r projectId
        organizationId userId keyId now s.password s'.password s.seed s'.seed)
      (encryptAlike_of_errors r.check hg · hg') hg hg' hsame
  | createProject lifetime r projectId organizationId keyId now =>
    refine Call.log_ending_eq (fun g g' hg hg' hsame => ?_) hfail hfail' hstore
    exact log_of_session_errors h (discreet_createProject _ _ _ _) (discreet_createProject _ _ _ _)
      (agree_createProject lifetime h r projectId organizationId keyId now s.seed s'.seed)
      (encryptAlike_of_errors r.check hg · hg') hg hg' hsame
  | createSigningKey lifetime keyId projectId now =>
    refine Call.log_ending_eq (fun g g' hg hg' hsame => ?_) hfail hfail' hstore
    -- There is no request to check here, so the check is one that lets everything pass.
    exact log_of_session_errors h (discreet_createSigningKey _ _ _ _)
      (discreet_createSigningKey _ _ _ _)
      (agree_createSigningKey lifetime h keyId projectId now s.seed s'.seed)
      (fun hg₁ hg₁' => encryptAlike_of_errors (.ok ()) hg hg₁ hg' hg₁' rfl) hg hg' hsame
  | issue lifetime config subject now =>
    refine Call.log_ending_eq (fun g g' hg hg' hsame => ?_) hfail hfail' hstore
    refine log_of_session_errors h (discreet_issue _ _ _ _ _) (discreet_issue _ _ _ _ _)
      (agree_issue s.protector s'.protector lifetime now h config subject s.signature s'.signature)
      (fun hg₁ _ => ?_) hg hg' hsame
    -- Without keys that are read there is none that could be read otherwise in the other run.
    intro record records record' records' hactive
    obtain ⟨reason, hunread⟩ := unread_of_issue hg hg₁
    cases hactive.symm.trans hunread

/-- Two runs of an errand end in the same way: both succeed, both fail in the store or both elsewhere,
or their secrets fare alike. A presented secret that is refused counts only if it is of the same class
as the other one. -/
inductive Matched (e : Errand) (s s' : Secrets σ) (w v : World σ) : Prop where
  | succeed (h : ((e.call s).run w).1 = .ok ()) (h' : ((e.call s').run v).1 = .ok ())
  | fail (he : e ≠ .authenticate) (f f' : AuthError ⊕ SessionError)
      (h : ((e.call s).run w).1 = .error f) (h' : ((e.call s').run v).1 = .error f')
      (hstore : InStore f ↔ InStore f')
  | alike (h : e.Alike s s' w v)

/-- One errand leads from twins to twins, whatever the secrets. -/
theorem Matched.twins {e : Errand} {s s' : Secrets σ} (hmatched : e.Matched s s' w v)
    (h : w.Twins v) : ((e.call s).run w).2.Twins ((e.call s').run v).2 := by
  cases hmatched with
  | succeed hok hok' => exact ((agree_call e s s' h).succeed _ _ hok hok').2
  | fail he f f' hfail hfail' hstore =>
    refine ⟨?_, log_of_errors he h hfail hfail' hstore⟩
    rw [atomic_call he s w f hfail, atomic_call he s' v f' hfail', h.tables]
  | alike halike => exact ((agree_call e s s' h).alike halike).2

end Errand

/-! ## Errands one after the other -/

section SideBySide

variable [Wording]

/-- The worlds that the same errands lead to, one after the other, from two worlds and with two
draws of secrets for each, if each time both runs end in the same way. -/
inductive SideBySide (start start' : World σ) : World σ → World σ → Prop where
  | start : SideBySide start start' start start'
  | step {w v : World σ} (h : SideBySide start start' w v) (e : Errand) (s s' : Secrets σ)
      (hmatched : e.Matched s s' w v) :
      SideBySide start start' ((e.call s).run w).2 ((e.call s').run v).2

theorem SideBySide.twins {start start' : World σ} (h : SideBySide start start' w v)
    (hstart : start.Twins start') : w.Twins v := by
  induction h with
  | start => exact hstart
  | step _ e s s' hmatched ih => exact hmatched.twins ih

/-- **Secrets are not told.** From worlds that only what comes of secrets tells apart, an errand is
run twice, with the same arguments, ids and clock and with different secrets. If both runs succeed
they leave the same log. If both fail, both in the store or both elsewhere, they leave the same log
too, unless the errand was to present a secret. If the secrets fare alike, so that the digests of two
API keys are both taken or both free, two presented secrets are both malformed or both unknown, and
two key protectors answer alike if asked, then the runs end in the same way, with the same failure if
they fail, and leave the same log.

What is told of bytes that cannot be decoded comes from the bytes, and they come from a key protector.
In states that the service has led to there are none as long as key protectors give back what they
have encrypted; then two tokens are issued, or fail to be, in the same way and with the same log as
soon as the key protectors answer alike.

After any errands, one after the other, the logs are the same, as long as both runs of each end in the
same way. -/
theorem secrets_untold (h : w.Twins v) :
    (∀ (e : Errand) (s s' : Secrets σ),
      let out := (e.call s).run w
      let out' := (e.call s').run v
      (out.1 = .ok () → out'.1 = .ok () → out.2.log = out'.2.log) ∧
      (e ≠ .authenticate → ∀ f f', out.1 = .error f → out'.1 = .error f' →
        (InStore f ↔ InStore f') → out.2.log = out'.2.log) ∧
      (e.Alike s s' w v → out.1 = out'.1 ∧ out.2.log = out'.2.log)) ∧
    (∀ (lifetime : Nat) (config : TokenConfig) (subject : SessionSubject) (now : Int)
        (s s' : Secrets σ),
      let out := ((Errand.issue lifetime config subject now).call s).run w
      let out' := ((Errand.issue lifetime config subject now).call s').run v
      s.protector.Inverts → s'.protector.Inverts → Service.Reachable s.protector w.tables →
      Service.Reachable s'.protector v.tables →
      SignersAlike subject.projectId now (DecryptAlike s.protector s'.protector) w v →
        out.1 = out'.1 ∧ out.2.log = out'.2.log) ∧
    ∀ w' v', SideBySide w v w' v' → w'.log = v'.log := by
  have halike : ∀ (e : Errand) (s s' : Secrets σ), e.Alike s s' w v →
      ((e.call s).run w).1 = ((e.call s').run v).1 ∧
        ((e.call s).run w).2.log = ((e.call s').run v).2.log := by
    intro e s s' halike
    obtain ⟨hends, htwins⟩ := (Errand.agree_call e s s' h).alike halike
    exact ⟨hends.eq, htwins.log⟩
  refine ⟨fun e s s' => ⟨fun hok hok' => ?_, fun he f f' hfail hfail' hstore => ?_, halike e s s'⟩,
    fun lifetime config subject now s s' hp hp' hw hv hanswers => ?_,
    fun w' v' hruns => (hruns.twins h).log⟩
  · exact ((Errand.Matched.succeed hok hok').twins h).log
  · exact Errand.log_of_errors he h hfail hfail' hstore
  · exact halike (.issue lifetime config subject now) s s'
      (signersAlike_of_reachable _ _ _ _ hp hp' hw hv hanswers)

end SideBySide

/-! ## Two secrets for an API key and for a token -/

/-- Secrets with some bits for an API key and a secret that is presented. -/
def sampleSecrets (apiKey : Uuid) (presented : String) : Secrets Unit where
  apiKey := apiKey
  presented := presented
  password := []
  hash := id
  seed := [1]
  signature := []
  protector := .clear

/-- The making of an API key for the console. -/
def sampleErrand : Errand := .createApiKey (.ofNat 10) (.ofNat 1) "login" true 0

/-- With any of two secrets a key is made for the console, and the log is the same. A malformed
secret that is presented afterwards is refused and logged in the same way. Nor do the random bytes of
its signature tell one token of the console's owner from another one. -/
theorem secrets_untold_console :
    let made (secret : Uuid) :=
      ((sampleErrand.call (sampleSecrets secret "")).run ApiKeys.consoleWorld).2
    let issued (seed : Bytes) := ((Errand.issue 1000 {} SessionToken.sampleSubject 0).call
      { sampleSecrets (.ofNat 7) "" with signature := seed }).run SessionToken.sampleWorld
    (made (.ofNat 7)).log = (made (.ofNat 8)).log ∧
      ((Errand.authenticate.call (sampleSecrets (.ofNat 7) "x")).run (made (.ofNat 7))).2.log =
        ((Errand.authenticate.call (sampleSecrets (.ofNat 8) "y")).run (made (.ofNat 8))).2.log ∧
      (issued [1]).1 = (issued [2]).1 ∧ (issued [1]).2.log = (issued [2]).2.log := by
  obtain ⟨hsingle, -, hruns⟩ := secrets_untold (World.Twins.refl ApiKeys.consoleWorld)
  obtain ⟨-, hissue, -⟩ := secrets_untold (World.Twins.refl SessionToken.sampleWorld)
  obtain ⟨hsame, -⟩ := hsingle sampleErrand (sampleSecrets (.ofNat 7) "")
    (sampleSecrets (.ofNat 8) "")
  refine ⟨hsame rfl rfl, hruns _ _ ?_, ?_⟩
  · refine .step (.step .start sampleErrand _ _ (.succeed rfl rfl)) .authenticate _ _ (.alike ?_)
    exact .inl ⟨⟨_, rfl⟩, ⟨_, rfl⟩⟩
  · refine hissue 1000 {} SessionToken.sampleSubject 0 _ _ KeyProtector.inverts_clear
      KeyProtector.inverts_clear SessionToken.reachable_sampleWorld
      SessionToken.reachable_sampleWorld fun record records record' records' hactive hactive' => ?_
    obtain ⟨rfl, -⟩ := List.cons.inj (Except.ok.inj (hactive.symm.trans hactive'))
    exact .refl _

end Gatehouse.Secrecy
