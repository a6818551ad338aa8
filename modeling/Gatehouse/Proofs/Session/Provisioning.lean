import Gatehouse.Proofs.Session.Service

/-!
# Provisioning that fails

Making a console, a project, a signing key or an API key leaves every table as it was if it fails,
whichever step has failed and whatever the key protector answers. The tables change in one place
only, the transaction, and what comes after it cannot fail. For a signing key that is the reading
back of its public half, which succeeds since the key was made a moment before.

A request that is refused does not even reach the key protector.
-/

namespace Gatehouse

variable {σ : Type}

/-! ## Acceptable requests -/

namespace Text

/-- A text shows something: not all of it is white space. -/
def Shows (s : String) : Prop :=
  ∃ c ∈ s.toList, isBlank c = false

theorem isBlankText_eq_false_iff {s : String} : isBlankText s = false ↔ Shows s := by
  rw [isBlankText, List.all_eq_false]
  constructor
  · rintro ⟨c, hc, hblank⟩
    exact ⟨c, hc, Bool.eq_false_iff.2 hblank⟩
  · rintro ⟨c, hc, hblank⟩
    exact ⟨c, hc, Bool.eq_false_iff.1 hblank⟩

end Text

namespace Provisioning

/-- A domain is another one, or its labels come before a dot and the other one. -/
def Under (domain parent : String) : Prop :=
  domain = parent ∨ ∃ labels : String, labels ≠ "" ∧ domain = labels ++ "." ++ parent

theorem isSameOrSubdomain_iff {domain parent : String} :
    isSameOrSubdomain domain parent = true ↔ Under domain parent := by
  rw [isSameOrSubdomain, Bool.or_eq_true, beq_iff_eq, Under]
  refine or_congr_right ?_
  constructor
  · intro h
    split at h
    case h_2 => cases h
    case h_1 c cs hstarts =>
      -- Backwards the domain goes on behind its parent with the dot, then at least one character.
      have hreverse := Traversal.isPrefixOf?_eq_some_iff.1 hstarts
      refine ⟨String.ofList (c :: cs).reverse, ?_, ?_⟩
      · intro hempty
        have hlist := congrArg String.toList hempty
        simp at hlist
      · apply String.toList_inj.1
        have hdomain := congrArg List.reverse hreverse
        simpa using hdomain
  · rintro ⟨labels, hlabels, rfl⟩
    have hne : labels.toList.reverse ≠ [] := by simpa using hlabels
    obtain ⟨c, cs, hcs⟩ := List.exists_cons_of_ne_nil hne
    have hstarts : parent.toList.reverse.isPrefixOf? (labels ++ "." ++ parent).toList.reverse =
        some ('.' :: c :: cs) := by
      apply Traversal.isPrefixOf?_eq_some_iff.2
      simp [hcs]
    simp only [hstarts]

/-- What the bootstrap of a console may be asked for. -/
structure ConsoleRequest.Acceptable (r : ConsoleRequest) : Prop where
  rootUserEmail : Text.Shows r.rootUserEmail
  consoleDomain : Text.Shows r.consoleDomain
  vaultDomain : Text.Shows r.vaultDomain
  under : Under r.vaultDomain r.consoleDomain

/-- What the making of a tenant project may be asked for. -/
structure ProjectRequest.Acceptable (r : ProjectRequest) : Prop where
  displayName : Text.Shows r.displayName
  vaultDomain : Text.Shows r.vaultDomain

/-- A check passes exactly under a condition, and refuses as invalid input what it does not pass. -/
def Demands (check : Except SessionError Unit) (condition : Prop) : Prop :=
  (condition ∧ check = .ok ()) ∨
    (¬ condition ∧ ∃ detail, check = .error (.invalidInput detail))

theorem Demands.bind {check check' : Except SessionError Unit} {condition condition' : Prop}
    (h : Demands check condition) (h' : Demands check' condition') :
    Demands (check >>= fun _ => check') (condition ∧ condition') := by
  rcases h with ⟨hc, rfl⟩ | ⟨hc, detail, rfl⟩
  · rcases h' with ⟨hc', rfl⟩ | ⟨hc', detail, rfl⟩
    · exact .inl ⟨⟨hc, hc'⟩, rfl⟩
    · exact .inr ⟨fun hboth => hc' hboth.2, detail, rfl⟩
  · exact .inr ⟨fun hboth => hc hboth.1, detail, rfl⟩

theorem Demands.congr {check : Except SessionError Unit} {condition condition' : Prop}
    (h : Demands check condition) (hiff : condition ↔ condition') : Demands check condition' := by
  rwa [Demands, ← hiff]

theorem Demands.eq_ok_iff {check : Except SessionError Unit} {condition : Prop}
    (h : Demands check condition) : check = .ok () ↔ condition := by
  rcases h with ⟨hc, rfl⟩ | ⟨hc, detail, rfl⟩
  · exact iff_of_true rfl hc
  · exact iff_of_false nofun hc

theorem demands_requireText (field value : String) :
    Demands (requireText field value) (Text.Shows value) := by
  rw [requireText]
  by_cases hblank : Text.isBlankText value
  · rw [if_pos hblank]
    refine .inr ⟨fun hshows => ?_, _, rfl⟩
    rw [Text.isBlankText_eq_false_iff.2 hshows] at hblank
    cases hblank
  · rw [if_neg hblank]
    exact .inl ⟨Text.isBlankText_eq_false_iff.1 (Bool.eq_false_iff.2 hblank), rfl⟩

theorem ConsoleRequest.demands_check (r : ConsoleRequest) : Demands r.check r.Acceptable := by
  have hunder : Demands (if isSameOrSubdomain r.vaultDomain r.consoleDomain then .ok ()
      else .error (.invalidInput
        s!"vault domain {r.vaultDomain} must be a subdomain of console domain {r.consoleDomain}"))
      (Under r.vaultDomain r.consoleDomain) := by
    by_cases hsub : isSameOrSubdomain r.vaultDomain r.consoleDomain
    · rw [if_pos hsub]
      exact .inl ⟨isSameOrSubdomain_iff.1 hsub, rfl⟩
    · rw [if_neg hsub]
      exact .inr ⟨fun h => hsub (isSameOrSubdomain_iff.2 h), _, rfl⟩
  have hfields := (demands_requireText "root user email" r.rootUserEmail).bind
    ((demands_requireText "console domain" r.consoleDomain).bind
      ((demands_requireText "vault domain" r.vaultDomain).bind hunder))
  refine hfields.congr ⟨?_, ?_⟩
  · rintro ⟨hemail, hconsole, hvault, h⟩
    exact ⟨hemail, hconsole, hvault, h⟩
  · rintro ⟨hemail, hconsole, hvault, h⟩
    exact ⟨hemail, hconsole, hvault, h⟩

theorem ProjectRequest.demands_check (r : ProjectRequest) : Demands r.check r.Acceptable := by
  have hfields := (demands_requireText "display name" r.displayName).bind
    (demands_requireText "vault domain" r.vaultDomain)
  refine hfields.congr ⟨?_, ?_⟩
  · rintro ⟨hname, hvault⟩
    exact ⟨hname, hvault⟩
  · rintro ⟨hname, hvault⟩
    exact ⟨hname, hvault⟩

/-! ## What fails, and what cannot -/

section Steps

variable (keys : SigningKeys σ)

/-- The public half of a key that was just made can be read. -/
theorem ofRecord_of_generate [Wording] {draw : KeyDraw} {projectId : Uuid} {now : Int}
    {w w' : World σ} {key : SigningKey} (h : (keys.generate draw projectId now).run w = (.ok key, w')) :
    SessionPublicKey.ofRecord key = .ok
      ⟨key.id, key.projectId, (PrivateKey.ofSeed draw.seed).publicKey, key.expiresAt⟩ := by
  have hread := (Service.generate_eq_ok h).readable
  rw [SessionPublicKey.ofRecord]
  rw [SigningKey.row] at hread
  rw [hread]

theorem atomic_runAll (ss : List Statement) : Call.Atomic (Store.runAll ss : Call σ _ _) :=
  (Call.atomic_transact _).telling _

/-- A transaction of the store, of which nothing but the log is told afterwards. -/
theorem atomic_write (ss : List Statement) (event : Log.Event) (f : StoreError → SessionError) :
    Call.Atomic (Call.mapError f
      (Store.runAll ss >>= fun _ => .emit event : Call σ StoreError Unit)) :=
  ((atomic_runAll ss).bind_succeeds fun _ => Call.succeeds_emit _).mapError f

theorem atomic_createSigningKey [Wording] (draw : KeyDraw) (projectId : Uuid) (now : Int) :
    Call.Atomic (keys.create draw projectId now) := by
  refine (Service.keeps_generate keys draw projectId now).bind_atomic fun w key mid hgenerate => ?_
  refine (atomic_write _ _ _).bind_succeeds fun _ => ?_
  refine (Call.succeeds_emit _).bind fun _ => ?_
  -- The store holds the key by now. That it can be read back was settled when it was made.
  intro w'
  exact ⟨_, ofRecord_of_generate keys hgenerate⟩

theorem atomic_createConsole (hash : String → String) (r : ConsoleRequest) (draw : ConsoleDraw)
    (now : Int) : Call.Atomic (createConsole keys hash r draw now) := by
  refine (Call.reads_ofExcept r.check).keeps.bind_atomic fun _ _ _ _ => ?_
  refine (Service.keeps_generate keys _ _ now).bind_atomic fun _ key _ _ => ?_
  refine (atomic_write _ _ _).bind_succeeds fun _ => ?_
  exact (Call.succeeds_emit _).bind fun _ => Call.succeeds_pure _

theorem atomic_createProject (r : ProjectRequest) (draw : ProjectDraw) (now : Int) :
    Call.Atomic (createProject keys r draw now) := by
  refine (Call.reads_ofExcept r.check).keeps.bind_atomic fun _ _ _ _ => ?_
  refine (Service.keeps_generate keys _ _ now).bind_atomic fun _ key _ _ => ?_
  refine (atomic_write _ _ _).bind_succeeds fun _ => ?_
  exact (Call.succeeds_emit _).bind fun _ => Call.succeeds_pure _

theorem atomic_createApiKey (draw : ApiKeyDraw) (projectId : Uuid) (displayName : String)
    (authenticationOnly : Bool) (now : Int) :
    Call.Atomic (ApiKeys.create draw projectId displayName authenticationOnly now :
      Call σ AuthError CreatedApiKey) := by
  have hstore : ∀ key : NewApiKey, Call.Atomic (Store.createApiKey key : Call σ _ _) :=
    fun key => (atomic_runAll _).bind_succeeds fun _ => Call.succeeds_pure _
  refine ((hstore _).mapError _).bind_succeeds fun record => ?_
  exact (Call.succeeds_emit _).bind fun _ => Call.succeeds_pure _

end Steps

/-! ## A refused request -/

/-- A call that begins with a check and is refused by it does nothing else. -/
theorem run_refused {α : Type} {check : Except SessionError Unit} {condition : Prop}
    (hcheck : Demands check condition) (hrefused : ¬ condition) (f : Unit → Call σ SessionError α)
    (w : World σ) :
    ∃ detail, (Call.ofExcept check >>= f).run w = (.error (.invalidInput detail), w) := by
  rcases hcheck with ⟨hcondition, -⟩ | ⟨-, detail, rfl⟩
  · exact absurd hcondition hrefused
  · exact ⟨detail, rfl⟩

/-! ## The first console -/

/-- In a new store a console is made exactly if it may be asked for, its signing key can be
encrypted, and that key's lifetime fits. -/
theorem createConsole_empty {keys : SigningKeys σ} {hash : String → String} {r : ConsoleRequest}
    {draw : ConsoleDraw} {now : Int} {w : World σ} (hw : w.tables = .empty) :
    (∃ console, ((createConsole keys hash r draw now).run w).1 = .ok console) ↔
      r.Acceptable ∧
      (∃ blob, (keys.protector.encrypt (PrivateKey.ofSeed draw.key.seed).toPkcs8 w.protector).1 =
        .ok blob) ∧
      keys.lifetime < Limit.bits63 := by
  constructor
  · rintro ⟨console, hok⟩
    have hrun : (createConsole keys hash r draw now).run w = (.ok console, _) := Prod.ext hok rfl
    obtain ⟨_, mid, hcheck, hrest⟩ := Call.run_bind_eq_ok_iff.1 hrun
    obtain ⟨key, mid', hgenerate, -⟩ := Call.run_bind_eq_ok_iff.1 hrest
    -- The check does not touch the world, so the protector is asked in the state it was found in.
    obtain ⟨hpassed, rfl⟩ := Prod.mk.inj hcheck
    obtain ⟨hlifetime, hencrypt, -⟩ := Service.encrypts_of_generate hgenerate
    exact ⟨r.demands_check.eq_ok_iff.1 hpassed, ⟨_, hencrypt⟩, hlifetime⟩
  · rintro ⟨hacceptable, ⟨blob, hencrypt⟩, hlifetime⟩
    have hcheck := r.demands_check.eq_ok_iff.2 hacceptable
    obtain ⟨console, w', hrun, -⟩ : ∃ console w',
        (createConsole keys hash r draw now).run w = (.ok console, w') ∧ _ :=
      Service.run_createConsole hw hcheck hlifetime hencrypt
    exact ⟨console, congrArg Prod.fst hrun⟩

/-! ## Provisioning leaves nothing behind -/

/-- **Provisioning that fails leaves nothing behind.** Whatever the tables hold and however the key
protector behaves, a provisioning call that ends with a failure has changed no table. A request that
is refused for what it asks leaves the whole world as it was, the protector's state with it. In a
new store a console is made exactly if it may be asked for, the protector encrypts its key, and the
key's lifetime fits. A key that was made can always be read back. -/
theorem failure_leaves_nothing [Wording] (p : KeyProtector σ) (lifetime : Nat)
    (hash : String → String) (now : Int) (w : World σ) :
    (∀ r draw e, ((createConsole ⟨p, lifetime⟩ hash r draw now).run w).1 = .error e →
        ((createConsole ⟨p, lifetime⟩ hash r draw now).run w).2.tables = w.tables) ∧
      (∀ r draw e, ((createProject ⟨p, lifetime⟩ r draw now).run w).1 = .error e →
        ((createProject ⟨p, lifetime⟩ r draw now).run w).2.tables = w.tables) ∧
      (∀ draw projectId e,
        ((SigningKeys.create ⟨p, lifetime⟩ draw projectId now).run w).1 = .error e →
          ((SigningKeys.create ⟨p, lifetime⟩ draw projectId now).run w).2.tables = w.tables) ∧
      (∀ draw projectId displayName authenticationOnly e,
        ((ApiKeys.create draw projectId displayName authenticationOnly now).run w).1 = .error e →
          ((ApiKeys.create draw projectId displayName authenticationOnly now).run w).2.tables =
            w.tables) ∧
      (∀ (r : ConsoleRequest) draw, ¬ r.Acceptable → ∃ detail,
        (createConsole ⟨p, lifetime⟩ hash r draw now).run w = (.error (.invalidInput detail), w)) ∧
      (∀ (r : ProjectRequest) draw, ¬ r.Acceptable → ∃ detail,
        (createProject ⟨p, lifetime⟩ r draw now).run w = (.error (.invalidInput detail), w)) ∧
      (w.tables = .empty → ∀ r draw,
        ((∃ console, ((createConsole ⟨p, lifetime⟩ hash r draw now).run w).1 = .ok console) ↔
          r.Acceptable ∧
          (∃ blob, (p.encrypt (PrivateKey.ofSeed draw.key.seed).toPkcs8 w.protector).1 = .ok blob) ∧
          lifetime < Limit.bits63)) ∧
      ∀ draw projectId key w',
        (SigningKeys.generate ⟨p, lifetime⟩ draw projectId now).run w = (.ok key, w') →
          ∃ half, SessionPublicKey.ofRecord key = .ok half := by
  refine ⟨?_, ?_, ?_, ?_, ?_, ?_, ?_, ?_⟩
  · exact fun r draw e => atomic_createConsole _ hash r draw now w e
  · exact fun r draw e => atomic_createProject _ r draw now w e
  · exact fun draw projectId e => atomic_createSigningKey _ draw projectId now w e
  · intro draw projectId displayName authenticationOnly e
    exact atomic_createApiKey draw projectId displayName authenticationOnly now w e
  · exact fun r draw hrefused => run_refused r.demands_check hrefused _ w
  · exact fun r draw hrefused => run_refused r.demands_check hrefused _ w
  · exact fun hw r draw => createConsole_empty hw
  · exact fun draw projectId key w' hgenerate => ⟨_, ofRecord_of_generate _ hgenerate⟩

/-- A console with its login pages at a domain. -/
def requestFor (vaultDomain : String) : ConsoleRequest := ⟨"root", "console", vaultDomain⟩

/-- A new store, with nothing said yet. -/
def newWorld : World Unit := { tables := .empty, protector := () }

theorem acceptable_vault_console : (requestFor "vault.console").Acceptable :=
  (requestFor "vault.console").demands_check.eq_ok_iff.1 (by decide +kernel)

theorem not_acceptable_vault : ¬ (requestFor "vault.consoles").Acceptable := by
  intro h
  have hcheck := (requestFor "vault.consoles").demands_check.eq_ok_iff.2 h
  revert hcheck
  decide +kernel

/-- A console whose login pages are elsewhere is refused in a new store and nothing is done. For a
domain under the console's one it is made if the key protector works, and if there is none the store
stays new. -/
theorem failure_leaves_nothing_new :
    (∃ detail, (createConsole ⟨.clear, 60⟩ id (requestFor "vault.consoles") Service.sampleDraw
        0).run newWorld = (.error (.invalidInput detail), newWorld)) ∧
      (∃ console, ((createConsole ⟨.clear, 60⟩ id (requestFor "vault.console") Service.sampleDraw
        0).run newWorld).1 = .ok console) ∧
      ((createConsole ⟨.unavailable Unit, 60⟩ id (requestFor "vault.console") Service.sampleDraw
        0).run newWorld).2.tables = .empty := by
  obtain ⟨-, -, -, -, hrefused, -, hmade, -⟩ := failure_leaves_nothing .clear 60 id 0 newWorld
  refine ⟨hrefused _ _ not_acceptable_vault, ?_, ?_⟩
  · exact (hmade rfl _ _).2 ⟨acceptable_vault_console, ⟨_, rfl⟩, by decide⟩
  · obtain ⟨hfailed, -⟩ := failure_leaves_nothing (.unavailable Unit) 60 id 0 newWorld
    have hcheck := (requestFor "vault.console").demands_check.eq_ok_iff.2 acceptable_vault_console
    refine hfailed _ _ (.kms (.backend "failing" "encrypt" "backend unavailable")) ?_
    rw [createConsole, hcheck]
    rfl

end Provisioning
end Gatehouse
