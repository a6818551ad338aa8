import Gatehouse.Proofs.Auth.Bearer
import Gatehouse.Proofs.Auth.Offer
import Gatehouse.Proofs.Session.Verification
import Gatehouse.Proofs.Store.Invariant

/-!
# How the gate decides

The gate asks the tables one question, and which question that is depends on the procedure and the
headers. A procedure without authentication asks nothing. A call with an authorization header asks
for the key behind its secret, any other call for the session behind its cookie. There is no way
from one of these paths to another.
-/

namespace Gatehouse.Gate

variable {σ : Type}

/-- The gate of a service: API keys in authorization headers, sessions of the console in cookies. -/
def ofServices [Wording] (config : TokenConfig) (consoleProjectId : Uuid) (now : Int) : Gate σ where
  bearer := .apiKeys
  cookie := .sessions config consoleProjectId now
  consoleProjectId

/-! ## The paths as questions to the tables -/

/-- An API key may call a procedure. -/
def Allowed (procedure : String) (key : ApiKeyIdentity) : Prop :=
  key.authenticationOnly = false ∨ procedure ∈ authenticationProcedures

theorem permits_apiKey_iff {procedure : String} {key : ApiKeyIdentity} :
    permits procedure (.apiKey key) = true ↔ Allowed procedure key := by
  rw [permits, Allowed, Bool.or_eq_true, Bool.not_eq_true', List.contains_iff_mem]

theorem reads_refuse {α : Type} (message : String) (fields : Log.Fields) :
    Call.Reads (refuse (σ := σ) (α := α) message fields) fun _ => .error .unauthenticated :=
  Call.reads_emit_fail _ _

/-- A check that is logged asks what the check asks. -/
theorem reads_check {c : CredentialCheck σ} {credential : String}
    {f : Database → Except AuthError Identity} (hc : Call.Reads (c.validate credential) f) :
    Call.Reads (check c credential) f := by
  refine hc.attempt.bind (h := fun r _ => r) fun r => ?_
  cases r with
  | ok identity => exact Call.reads_pure _
  | error e => exact Call.reads_emit_fail _ _

/-- The outcome for the text of an authorization header. -/
def textVerdict (procedure text : String) (db : Database) : Except AuthError Identity :=
  match bearerSecret? text with
  | none => .error .unauthenticated
  | some secret => do
    let key ← ApiKeys.holder secret db
    if permits procedure (.apiKey key) then return .apiKey key
    else .error .permissionDenied

/-- The outcome for the value of an authorization header. -/
def bearerVerdict (procedure : String) (value : Bytes) (db : Database) :
    Except AuthError Identity :=
  match Http.headerText? value with
  | none => .error .unauthenticated
  | some text => textVerdict procedure text db

/-- The outcome for a token in a cookie. -/
def tokenVerdict [Wording] (config : TokenConfig) (consoleProjectId : Uuid) (now : Int)
    (token : String) (db : Database) : Except AuthError Identity := do
  let i ← (SessionToken.verdict config consoleProjectId token now db).mapError .ofSession
  return .ofSession i

/-- The outcome for some cookie headers. -/
def cookieVerdict [Wording] (config : TokenConfig) (consoleProjectId : Uuid) (now : Int)
    (cookies : List Bytes) (db : Database) : Except AuthError Identity :=
  match Cookie.last? cookies (cookieName consoleProjectId) with
  | some token =>
    if token = "" then .error .unauthenticated
    else tokenVerdict config consoleProjectId now token db
  | none => .error .unauthenticated

/-- The identity behind a call. -/
def identityOf [Wording] (config : TokenConfig) (consoleProjectId : Uuid) (now : Int)
    (procedure : String) (headers : Http.Headers) (db : Database) : Except AuthError Identity :=
  match (headers.first? "authorization").filter (!·.isEmpty) with
  | some value => bearerVerdict procedure value db
  | none => cookieVerdict config consoleProjectId now (headers.values "cookie") db

section Reads

variable [Wording] (config : TokenConfig) (consoleProjectId : Uuid) (now : Int) (procedure : String)

theorem reads_authenticateBearer (text : String) :
    Call.Reads ((ofServices (σ := σ) config consoleProjectId now).authenticateBearer procedure text)
      (textVerdict procedure text) := by
  rw [authenticateBearer]
  unfold textVerdict
  cases bearerSecret? text with
  | none => exact reads_refuse _ _
  | some secret =>
    have hcheck := (ApiKeys.reads_authenticate (σ := σ) secret).bind fun key =>
      Call.reads_pure (Identity.apiKey key)
    -- The identity is known to be that of an API key only once the check is done.
    have hjoin : (fun db => ApiKeys.holder secret db >>= fun key =>
        if permits procedure (.apiKey key) then return .apiKey key
        else .error .permissionDenied) =
        fun db => (ApiKeys.holder secret db >>= fun key => .ok (Identity.apiKey key)) >>=
          fun identity => if permits procedure identity then return identity
            else .error .permissionDenied := by
      funext db
      cases ApiKeys.holder secret db <;> rfl
    dsimp only
    rw [hjoin]
    refine (reads_check hcheck).bind fun identity => ?_
    split
    · exact Call.reads_pure _
    · exact Call.reads_emit_fail _ _

theorem reads_authenticateCookie (headers : Http.Headers) :
    Call.Reads ((ofServices (σ := σ) config consoleProjectId now).authenticateCookie headers)
      (cookieVerdict config consoleProjectId now (headers.values "cookie")) := by
  have hsession := fun token =>
    ((SessionToken.reads_verify (σ := σ) config consoleProjectId token now).mapError
      AuthError.ofSession).bind fun i => Call.reads_pure (Identity.ofSession i)
  rw [authenticateCookie]
  unfold cookieVerdict
  dsimp only [ofServices]
  cases Cookie.last? (headers.values "cookie") (cookieName consoleProjectId) with
  | none => exact reads_refuse _ _
  | some token =>
    dsimp only
    split
    · exact reads_refuse _ _
    · exact reads_check (hsession token)

theorem reads_identify (headers : Http.Headers) :
    Call.Reads ((ofServices (σ := σ) config consoleProjectId now).identify procedure headers)
      (identityOf config consoleProjectId now procedure headers) := by
  rw [identify]
  unfold identityOf
  cases (headers.first? "authorization").filter (!·.isEmpty) with
  | none => exact reads_authenticateCookie config consoleProjectId now headers
  | some value =>
    dsimp only
    unfold bearerVerdict
    cases Http.headerText? value with
    | none => exact reads_refuse _ _
    | some text => exact reads_authenticateBearer config consoleProjectId now procedure text

/-- What the gate makes of the identity behind a call. -/
def contextOf (procedure : String) (r : Except AuthError Identity) : Except AuthError CallContext :=
  r.map fun identity => ⟨procedure, some identity⟩

/-- The gate asks for the identity behind a call that needs one. -/
theorem reads_authenticate {procedure : String} (hprocedure : procedure ∉ skipProcedures)
    (headers : Http.Headers) :
    Call.Reads ((ofServices (σ := σ) config consoleProjectId now).authenticate procedure headers)
      fun db => contextOf procedure
        (identityOf config consoleProjectId now procedure headers db) := by
  have hskip : ¬skipProcedures.contains procedure = true := by
    rwa [List.contains_iff_mem]
  have hjoin : (fun db => contextOf procedure
      (identityOf config consoleProjectId now procedure headers db)) =
      fun db => identityOf config consoleProjectId now procedure headers db >>= fun identity =>
        .ok ⟨procedure, some identity⟩ := by
    funext db
    cases identityOf config consoleProjectId now procedure headers db <;> rfl
  rw [authenticate, if_neg hskip, hjoin]
  refine Call.Reads.inSpan ?_ _
  refine (reads_identify config consoleProjectId now procedure headers).bind fun identity => ?_
  exact Call.Reads.emit_bind (c := fun _ => pure _) (Call.reads_pure _) _

end Reads

/-! ## The outcome for an authorization header -/

/-- The value of an authorization header presents the secret of a key. -/
def Presents (db : Database) (value : Bytes) (key : ApiKeyIdentity) : Prop :=
  ∃ secret, value = presented secret ∧ ApiKeys.Opens db secret key

section Bearer

variable {db : Database} {value : Bytes} {key : ApiKeyIdentity}

theorem bearerVerdict_of_presents (hdb : db.Conforms) (procedure : String)
    (h : Presents db value key) :
    bearerVerdict procedure value db =
      if permits procedure (.apiKey key) then .ok (.apiKey key) else .error .permissionDenied := by
  obtain ⟨secret, hvalue, hopens⟩ := h
  obtain ⟨text, htext, hsecret⟩ := eq_presented_iff.1 hvalue
  rw [bearerVerdict, htext]
  dsimp only
  rw [textVerdict, hsecret]
  dsimp only
  rw [ApiKeys.holder_of_opens hdb hopens]
  rfl

theorem bearerVerdict_of_not_presents (hdb : db.Conforms) (procedure : String)
    (h : ∀ key, ¬Presents db value key) :
    bearerVerdict procedure value db = .error .unauthenticated := by
  rw [bearerVerdict]
  cases htext : Http.headerText? value with
  | none => rfl
  | some text =>
    dsimp only
    rw [textVerdict]
    cases hsecret : bearerSecret? text with
    | none => rfl
    | some secret =>
      -- A key behind this secret would be presented by the value that the secret is read from.
      have hnone : ∀ token key, secret = IdFormat.apiKeySecret.format token →
          ¬ApiKeys.Opens db token key := by
        rintro token key rfl hopens
        exact h key ⟨token, eq_presented_iff.2 ⟨text, htext, hsecret⟩, hopens⟩
      dsimp only
      rw [ApiKeys.holder_of_not_opens hdb hnone]
      rfl

end Bearer

/-! ## The decision -/

/-- The headers of a call put it on the path of authorization headers, with this value. -/
def TakesBearer (headers : Http.Headers) (value : Bytes) : Prop :=
  headers.first? "authorization" = some value ∧ value ≠ []

/-- The headers of a call put it on the path of cookies. -/
def TakesCookie (headers : Http.Headers) : Prop :=
  ∀ value, headers.first? "authorization" = some value → value = []

theorem identityOf_of_takesBearer [Wording] {headers : Http.Headers} {value : Bytes}
    (h : TakesBearer headers value) (config : TokenConfig) (consoleProjectId : Uuid) (now : Int)
    (procedure : String) (db : Database) :
    identityOf config consoleProjectId now procedure headers db =
      bearerVerdict procedure value db := by
  obtain ⟨hfirst, hvalue⟩ := h
  have hfilter : (headers.first? "authorization").filter (!·.isEmpty) = some value := by
    rw [hfirst, Option.filter_some, if_pos (by simpa using hvalue)]
  rw [identityOf, hfilter]

theorem TakesCookie.filter_eq_none {headers : Http.Headers} (h : TakesCookie headers) :
    (headers.first? "authorization").filter (!·.isEmpty) = none := by
  cases hfirst : headers.first? "authorization" with
  | none => rfl
  | some value =>
    rw [h value hfirst]
    rfl

theorem identityOf_of_takesCookie [Wording] {headers : Http.Headers} (h : TakesCookie headers)
    (config : TokenConfig) (consoleProjectId : Uuid) (now : Int) (procedure : String)
    (db : Database) :
    identityOf config consoleProjectId now procedure headers db =
      cookieVerdict config consoleProjectId now (headers.values "cookie") db := by
  rw [identityOf, h.filter_eq_none]

/-- The three outcomes of a call with an authorization header. -/
theorem contextOf_bearerVerdict {db : Database} (hdb : db.Conforms) (procedure : String)
    (value : Bytes) :
    let outcome := contextOf procedure (bearerVerdict procedure value db)
    (∀ context, outcome = .ok context ↔ ∃ key, Presents db value key ∧ Allowed procedure key ∧
      context = ⟨procedure, some (.apiKey key)⟩) ∧
    (outcome = .error .permissionDenied ↔
      ∃ key, Presents db value key ∧ ¬Allowed procedure key) ∧
    (outcome = .error .unauthenticated ↔ ∀ key, ¬Presents db value key) := by
  intro outcome
  have hallowed : ∀ key, Presents db value key → Allowed procedure key →
      outcome = .ok ⟨procedure, some (.apiKey key)⟩ := by
    intro key hkey hpermitted
    show contextOf procedure (bearerVerdict procedure value db) = _
    rw [bearerVerdict_of_presents hdb procedure hkey, if_pos (permits_apiKey_iff.2 hpermitted)]
    rfl
  have hdenied : ∀ key, Presents db value key → ¬Allowed procedure key →
      outcome = .error .permissionDenied := by
    intro key hkey hforbidden
    show contextOf procedure (bearerVerdict procedure value db) = _
    rw [bearerVerdict_of_presents hdb procedure hkey,
      if_neg (mt permits_apiKey_iff.1 hforbidden)]
    rfl
  have hunknown : (∀ key, ¬Presents db value key) → outcome = .error .unauthenticated := by
    intro hnone
    show contextOf procedure (bearerVerdict procedure value db) = _
    rw [bearerVerdict_of_not_presents hdb procedure hnone]
    rfl
  -- One of the three conditions holds, and each outcome excludes the other two.
  have hcases : (∃ key, Presents db value key ∧ Allowed procedure key) ∨
      (∃ key, Presents db value key ∧ ¬Allowed procedure key) ∨ ∀ key, ¬Presents db value key := by
    by_cases h : ∃ key, Presents db value key
    · obtain ⟨key, hkey⟩ := h
      by_cases hpermitted : Allowed procedure key
      · exact .inl ⟨key, hkey, hpermitted⟩
      · exact .inr (.inl ⟨key, hkey, hpermitted⟩)
    · exact .inr (.inr (not_exists.1 h))
  refine ⟨fun context => ⟨fun h => ?_, ?_⟩, ⟨fun h => ?_, ?_⟩, ⟨fun h => ?_, hunknown⟩⟩
  · rcases hcases with ⟨key, hkey, hpermitted⟩ | ⟨key, hkey, hforbidden⟩ | hnone
    · rw [hallowed key hkey hpermitted] at h
      exact ⟨key, hkey, hpermitted, (Except.ok.inj h).symm⟩
    · rw [hdenied key hkey hforbidden] at h
      cases h
    · rw [hunknown hnone] at h
      cases h
  · rintro ⟨key, hkey, hpermitted, rfl⟩
    exact hallowed key hkey hpermitted
  · rcases hcases with ⟨key, hkey, hpermitted⟩ | hforbidden | hnone
    · rw [hallowed key hkey hpermitted] at h
      cases h
    · exact hforbidden
    · rw [hunknown hnone] at h
      cases h
  · rintro ⟨key, hkey, hforbidden⟩
    exact hdenied key hkey hforbidden
  · rcases hcases with ⟨key, hkey, hpermitted⟩ | ⟨key, hkey, hforbidden⟩ | hnone
    · rw [hallowed key hkey hpermitted] at h
      cases h
    · rw [hdenied key hkey hforbidden] at h
      cases h
    · exact hnone

/-- **The decision of the gate.** A procedure without authentication is served without an identity,
whatever the headers. Otherwise a first authorization value that is not empty decides alone: it has
to present the secret of a stored key that is not revoked, and the key has to be allowed to call the
procedure. Otherwise the cookies decide alone: the last cookie with the console's name has to be a
token that is verified for the console project. -/
theorem authenticate_outcome [Wording] {w : World σ} (hw : Store.Reachable w.tables)
    (config : TokenConfig) (consoleProjectId : Uuid) (now : Int) (procedure : String)
    (headers : Http.Headers) :
    let gate : Gate σ := ofServices config consoleProjectId now
    let outcome := ((gate.authenticate procedure headers).run w).1
    (procedure ∈ skipProcedures → outcome = .ok ⟨procedure, none⟩) ∧
    (procedure ∉ skipProcedures → ∀ value, TakesBearer headers value →
      (∀ (headers' : Http.Headers) (w' : World σ), TakesBearer headers' value →
        w'.tables = w.tables → ((gate.authenticate procedure headers').run w').1 = outcome) ∧
      (∀ context, outcome = .ok context ↔ ∃ key, Presents w.tables value key ∧
        Allowed procedure key ∧ context = ⟨procedure, some (.apiKey key)⟩) ∧
      (outcome = .error .permissionDenied ↔
        ∃ key, Presents w.tables value key ∧ ¬Allowed procedure key) ∧
      (outcome = .error .unauthenticated ↔ ∀ key, ¬Presents w.tables value key)) ∧
    (procedure ∉ skipProcedures → TakesCookie headers →
      (∀ (headers' : Http.Headers) (w' : World σ), TakesCookie headers' →
        headers'.values "cookie" = headers.values "cookie" → w'.tables = w.tables →
        ((gate.authenticate procedure headers').run w').1 = outcome) ∧
      ∃ ps, Cookie.AllPairs (headers.values "cookie") ps ∧
        (∀ token, token ≠ "" → Cookie.GivesLast ps (cookieName consoleProjectId) token →
          outcome =
            (((SessionToken.verify config consoleProjectId token now).run w).1.mapError
              AuthError.ofSession).map fun i => ⟨procedure, some (.ofSession i)⟩) ∧
        ((∀ token, Cookie.GivesLast ps (cookieName consoleProjectId) token → token = "") →
          outcome = .error .unauthenticated)) := by
  intro gate outcome
  have hread : procedure ∉ skipProcedures → ∀ (headers' : Http.Headers) (w' : World σ),
      w'.tables = w.tables → ((gate.authenticate procedure headers').run w').1 =
        contextOf procedure
          (identityOf config consoleProjectId now procedure headers' w.tables) := by
    intro hprocedure headers' w' hsame
    rw [← hsame]
    exact (reads_authenticate config consoleProjectId now hprocedure headers' w').1
  refine ⟨fun hskip => ?_, fun hprocedure value hbearer => ?_, fun hprocedure hcookie => ?_⟩
  · show ((gate.authenticate procedure headers).run w).1 = _
    rw [authenticate, if_pos (List.contains_iff_mem.2 hskip)]
    rfl
  · have houtcome : outcome = contextOf procedure (bearerVerdict procedure value w.tables) := by
      rw [← identityOf_of_takesBearer hbearer config consoleProjectId now]
      exact hread hprocedure headers w rfl
    -- Other headers with this value lead to the same question, and so to the same outcome.
    refine ⟨fun headers' w' hbearer' hsame => ?_, ?_⟩
    · rw [houtcome, ← identityOf_of_takesBearer hbearer' config consoleProjectId now]
      exact hread hprocedure headers' w' hsame
    · rw [houtcome]
      exact contextOf_bearerVerdict hw.conforms procedure value
  · have houtcome : outcome = contextOf procedure
        (cookieVerdict config consoleProjectId now (headers.values "cookie") w.tables) := by
      rw [← identityOf_of_takesCookie hcookie config consoleProjectId now procedure]
      exact hread hprocedure headers w rfl
    have hgives : ∀ token, Cookie.GivesLast ((headers.values "cookie").flatMap Cookie.pairs)
        (cookieName consoleProjectId) token ↔
        Cookie.last? (headers.values "cookie") (cookieName consoleProjectId) = some token :=
      fun token => Cookie.lastOf?_eq_some_iff.symm
    refine ⟨fun headers' w' hcookie' hcookies hsame => ?_, _, Cookie.allPairs_iff.2 rfl,
      fun token hne hlast => ?_, fun hnone => ?_⟩
    · rw [houtcome, ← hcookies,
        ← identityOf_of_takesCookie hcookie' config consoleProjectId now procedure]
      exact hread hprocedure headers' w' hsame
    · -- Verification reads the same tables as the gate does.
      have hverify := (SessionToken.reads_verify config consoleProjectId token now w).1
      rw [houtcome, cookieVerdict, (hgives token).1 hlast, hverify]
      dsimp only
      rw [if_neg hne, tokenVerdict]
      cases SessionToken.verdict config consoleProjectId token now w.tables <;> rfl
    · rw [houtcome, cookieVerdict]
      cases hlast : Cookie.last? (headers.values "cookie") (cookieName consoleProjectId) with
      | none => rfl
      | some token =>
        dsimp only
        rw [if_pos (hnone token ((hgives token).2 hlast))]
        rfl

/-! ## A key for authentication -/

/-- A secret in the one authorization header of a call puts it on the path of such headers. -/
theorem takesBearer_presented (secret : Uuid) :
    TakesBearer [("authorization", presented secret)] (presented secret) := by
  have hname : "authorization".toLower == "authorization" := by decide +kernel
  refine ⟨?_, by simp [presented, Bytes.ofAscii, bearerScheme]⟩
  rw [Http.Headers.first?, Http.Headers.values, List.filter_cons, if_pos hname, List.filter_nil,
    List.map_singleton, List.head?_cons]

/-- A key that was stored just now is opened by the secret that its digest is of. -/
theorem opens_after_createApiKey {db : Database} {key : NewApiKey} {secret : Uuid}
    (hdb : db.Conforms) (hfits : (Store.Command.createApiKey key).Fits db)
    (hdigest : key.secretDigest = Sha256.hash secret.toBytes) :
    ApiKeys.Opens ((Store.Command.createApiKey key).after db) secret
      ⟨key.id, key.projectId, key.authenticationOnly⟩ := by
  have hstatements := (Store.Command.statements_eq_ok_iff _ hdb).2 ⟨hfits, rfl⟩
  have hrow : key.row ∈ db.apiKeys ++ [key.row] :=
    List.mem_append_right _ (List.mem_singleton.2 rfl)
  rw [Store.Command.after_eq, Store.afterAll_of_ok hstatements]
  exact ⟨key.row, hrow, hdigest, rfl, rfl, rfl, rfl⟩

/-- A key that may call authentication procedures only, with the secret 7. -/
def sampleKey : NewApiKey where
  id := .ofNat 6
  projectId := .ofNat 1
  displayName := "login"
  secretDigest := Sha256.hash (Uuid.ofNat 7).toBytes
  authenticationOnly := true
  createdAt := 0

/-- The tables of a console with this key. -/
def sampleTables : Database :=
  (Store.Command.createApiKey sampleKey).after Store.sampleConsole.tables

theorem reachable_sampleTables : Store.Reachable sampleTables :=
  .step _ (Store.reachable_tables Store.sampleConsole rfl)

/-- The console has no key yet, so any key of it can be stored. -/
theorem fits_sampleConsole {key : NewApiKey} (h : key.projectId = .ofNat 1) :
    (Store.Command.createApiKey key).Fits Store.sampleConsole.tables := by
  refine ⟨fun k hk => ?_, fun k hk => ?_, ⟨_, List.mem_singleton.2 rfl, ?_⟩⟩
  · exact absurd hk List.not_mem_nil
  · exact absurd hk List.not_mem_nil
  · rw [h]
    rfl

theorem opens_sampleTables :
    ApiKeys.Opens sampleTables (.ofNat 7) ⟨.ofNat 6, .ofNat 1, true⟩ := by
  have hconforms := (Store.reachable_tables Store.sampleConsole rfl).conforms
  exact opens_after_createApiKey hconforms (fits_sampleConsole rfl) rfl

theorem takesCookie_sampleHeaders : TakesCookie sampleHeaders := by
  have hname : ¬("Cookie".toLower == "authorization") = true := by decide +kernel
  have hname' : ¬("cookie".toLower == "authorization") = true := by decide +kernel
  intro value hvalue
  rw [Http.Headers.first?, Http.Headers.values, sampleHeaders, List.filter_cons, if_neg hname,
    List.filter_cons, if_neg hname'] at hvalue
  cases hvalue

/-- The secret of a key for authentication lets its holder ask who it is, and nothing more. The token
of the console's owner, in a cookie, lets its holder act as the owner. -/
theorem authenticate_samples :
    let gate : Gate Unit := ofServices {} (.ofNat 1) 0
    let w : World Unit := { tables := sampleTables, protector := () }
    let headers : Http.Headers := [("authorization", presented (.ofNat 7))]
    ((gate.authenticate "/portier.backend.v1.BackendService/AuthenticateApiKey" headers).run w).1 =
        .ok ⟨"/portier.backend.v1.BackendService/AuthenticateApiKey",
          some (.apiKey ⟨.ofNat 6, .ofNat 1, true⟩)⟩ ∧
      ((gate.authenticate "/portier.backend.v1.BackendService/GetProject" headers).run w).1 =
        .error .permissionDenied ∧
      (((ofServices {} (.ofNat 1) 299).authenticate "/portier.backend.v1.BackendService/GetProject"
        sampleHeaders).run SessionToken.sampleWorld).1 =
        .ok ⟨"/portier.backend.v1.BackendService/GetProject",
          some (.consoleSession ⟨.ofNat 3, .ofNat 4, .ofNat 2, .ofNat 1⟩)⟩ := by
  intro gate w headers
  have hbearer := takesBearer_presented (.ofNat 7)
  have hpresents : Presents w.tables (presented (.ofNat 7)) ⟨.ofNat 6, .ofNat 1, true⟩ :=
    ⟨.ofNat 7, rfl, opens_sampleTables⟩
  refine ⟨?_, ?_, ?_⟩
  · have houtcome := (authenticate_outcome (w := w) reachable_sampleTables {} (.ofNat 1) 0
      "/portier.backend.v1.BackendService/AuthenticateApiKey" headers).2.1 (by decide) _ hbearer
    exact (houtcome.2.1 _).2 ⟨_, hpresents, .inr (by decide), rfl⟩
  · have houtcome := (authenticate_outcome (w := w) reachable_sampleTables {} (.ofNat 1) 0
      "/portier.backend.v1.BackendService/GetProject" headers).2.1 (by decide) _ hbearer
    refine houtcome.2.2.1.2 ⟨_, hpresents, ?_⟩
    rintro (honly | hlisted)
    · cases honly
    · exact absurd hlisted (by decide)
  · obtain ⟨-, ps, hps, hverified, -⟩ := (authenticate_outcome
      SessionToken.reachable_sampleWorld.store {} (.ofNat 1) 299
      "/portier.backend.v1.BackendService/GetProject" sampleHeaders).2.2 (by decide)
      takesCookie_sampleHeaders
    have hlast : Cookie.GivesLast ps (cookieName (.ofNat 1)) SessionToken.sampleToken.render :=
      Cookie.givesLast_of_offers (inert_cookieName _) SessionToken.inert_render_sign
        offers_sampleHeaders hps
    rw [hverified _ (SessionToken.render_ne_empty _) hlast,
      (SessionToken.reads_verify _ _ _ _ _).1, SessionToken.verdict_sampleToken]
    rfl

end Gatehouse.Gate
