import Gatehouse.Proofs.Api.Reply
import Gatehouse.Proofs.Session.Publication
import Gatehouse.Proofs.Session.Tokens

/-!
# The published key set

A project's keys are published under a path with its external id. A text that is no such id, and the
id of a project that does not exist, are told apart. The keys that are told are those that
verification goes by.
-/

namespace Gatehouse

namespace Api

variable {db : Database} {projectId : Uuid} {now : Int}

/-- A request asks for the public keys of whatever project a text names. -/
def Request.AsksForKeys (r : Request) (text : String) : Prop :=
  r.method = "GET" ∧ ∃ segment,
    Route.ofPath? (pathOf r.target) = some (.sessionPublicKeys segment) ∧
    segmentText? segment = some text

/-- The request for the public keys of whatever project a text names. -/
def Request.forKeys (text : String) : Request where
  method := "GET"
  target := "/v1/projects/" ++ text ++ "/session-public-keys"
  headers := []

/-- Whether a character stands for itself in a segment of a path. -/
def isPlainChar (c : Char) : Bool :=
  c != '/' && c != '?' && c != '#' && c != '%'

theorem isPlainChar_iff {c : Char} :
    isPlainChar c = true ↔ ((c ≠ '/' ∧ c ≠ '?') ∧ c ≠ '#') ∧ c ≠ '%' := by
  simp only [isPlainChar, Bool.and_eq_true, bne_iff_ne]

theorem percentDecoded_of_plain {cs : List Char} (h : ∀ c ∈ cs, isPlainChar c = true) :
    percentDecoded cs = cs.flatMap String.utf8EncodeChar := by
  induction cs with
  | nil => rfl
  | cons c cs ih =>
    obtain ⟨hc, hcs⟩ := List.forall_mem_cons.1 h
    rw [percentDecoded, ih hcs, List.flatMap_cons]
    -- No escape begins here, since a plain character is no percent sign.
    rintro hi lo rest rfl
    exact absurd rfl (isPlainChar_iff.1 hc).2

theorem toList_forKeys (text : String) : (Request.forKeys text).target.toList =
    "/v1/projects/".toList ++ text.toList ++ "/session-public-keys".toList := by
  rw [Request.forKeys, String.toList_append, String.toList_append]

theorem pathOf_forKeys {text : String} (h : ∀ c ∈ text.toList, isPlainChar c = true) :
    pathOf (Request.forKeys text).target = (Request.forKeys text).target := by
  have hfixed : ("/v1/projects/".toList ++ "/session-public-keys".toList).all
      (fun c => c != '?' && c != '#') = true := by decide +kernel
  have hall : ∀ c ∈ (Request.forKeys text).target.toList, (c != '?' && c != '#') = true := by
    intro c hc
    rw [toList_forKeys, List.mem_append, List.mem_append] at hc
    rcases hc with (hc | hc) | hc
    · exact List.all_eq_true.1 hfixed c (List.mem_append_left _ hc)
    · obtain ⟨⟨⟨-, hquery⟩, hfragment⟩, -⟩ := isPlainChar_iff.1 (h c hc)
      rw [Bool.and_eq_true, bne_iff_ne, bne_iff_ne]
      exact ⟨hquery, hfragment⟩
    · exact List.all_eq_true.1 hfixed c (List.mem_append_right _ hc)
  rw [pathOf, List.takeWhile_eq_self_iff.2 hall, String.ofList_toList]

theorem keysSegment?_forKeys {text : String} (hne : text ≠ "")
    (h : ∀ c ∈ text.toList, isPlainChar c = true) :
    Route.keysSegment? (Request.forKeys text).target = some text := by
  have hsegments : (Request.forKeys text).target.toList.splitOn '/' =
      [[], "v1".toList, "projects".toList, text.toList, "session-public-keys".toList] := by
    have hno : ∀ segment ∈ [[], "v1".toList, "projects".toList, text.toList,
        "session-public-keys".toList], '/' ∉ segment := by
      simp only [List.forall_mem_cons]
      refine ⟨by decide, by decide, by decide, fun hmem => ?_, by decide, nofun⟩
      exact (isPlainChar_iff.1 (h _ hmem)).1.1.1 rfl
    have hstart : "/v1/projects/".toList =
        '/' :: ("v1".toList ++ '/' :: ("projects".toList ++ ['/'])) := by decide
    have hend : "/session-public-keys".toList = '/' :: "session-public-keys".toList := by decide
    -- What is put together with slashes is cut into the same parts, if no part has one.
    rw [← List.splitOn_intercalate '/' hno (by simp), toList_forKeys, hstart, hend]
    simp only [List.intercalate_cons_cons, List.intercalate_singleton, List.append_assoc,
      List.cons_append, List.nil_append]
  rw [Route.keysSegment?, hsegments]
  simp only [List.map_cons, List.map_nil, String.ofList_toList, String.ofList_nil]
  exact if_neg hne

/-- A request for the keys of what a text names asks for them, if the text can stand in a path. -/
theorem asksForKeys_forKeys {text : String} (hne : text ≠ "")
    (h : ∀ c ∈ text.toList, isPlainChar c = true) : (Request.forKeys text).AsksForKeys text := by
  refine ⟨rfl, text, ?_, ?_⟩
  · -- No path but those of keys begins in this way.
    have hstart : (Request.forKeys text).target.toList.take 2 = ['/', 'v'] := by
      rw [toList_forKeys]
      rfl
    have hcall : Procedure.all.find? (·.path == (Request.forKeys text).target) = none := by
      rw [List.find?_eq_none]
      intro p _ hp
      rw [← beq_iff_eq.1 hp] at hstart
      revert hstart
      cases p <;> decide +kernel
    have hhealth : (Request.forKeys text).target ≠ "/health" := by
      intro heq
      rw [heq] at hstart
      revert hstart
      decide
    rw [pathOf_forKeys h, Route.ofPath?, hcall]
    dsimp only
    rw [if_neg hhealth, keysSegment?_forKeys hne h]
    rfl
  · rw [segmentText?, percentDecoded_of_plain h]
    exact Utf8.text?_encode text

theorem isPlainChar_digitChar {n : Nat} (h : n < 36) :
    isPlainChar (IdFormat.digitChar n) = true := by
  revert n
  decide

/-- The external id of a project can stand in a path. -/
theorem asksForKeys_format (projectId : Uuid) :
    (Request.forKeys (IdFormat.project.format projectId)).AsksForKeys
      (IdFormat.project.format projectId) := by
  have hlist := IdFormat.toList_format IdFormat.project projectId
  apply asksForKeys_forKeys
  · intro hempty
    rw [hempty] at hlist
    cases hlist
  · have hlabel : IdFormat.project.label.toList.all isPlainChar = true := by decide +kernel
    intro c hc
    rw [hlist, List.mem_append, List.mem_cons] at hc
    rcases hc with hc | rfl | hc
    · exact List.all_eq_true.1 hlabel c hc
    · rfl
    · obtain ⟨n, hn, rfl⟩ := List.mem_map.1 hc
      exact isPlainChar_digitChar (Positional.lt_of_mem_digits (by decide) hn)

theorem reply_of_asksForKeys [Wording] (s : Server) {r : Request} {text : String}
    (h : r.AsksForKeys text) (now : Int) (db : Database) :
    s.reply r now db = replyTo (published text now db) := by
  obtain ⟨hmethod, segment, hroute, htext⟩ := h
  rw [Server.reply, hroute]
  dsimp only
  rw [Server.replyOn, hmethod, htext]
  rfl

/-! ## What a text names -/

theorem published_of_not_id [Wording] {text : String}
    (h : ∀ projectId, text ≠ IdFormat.project.format projectId) (now : Int) (db : Database) :
    published text now db = .error (.ofInvalidId ⟨IdFormat.project.label⟩) := by
  have hparse := IdFormat.parse_eq_error_iff.2 ⟨rfl, h⟩
  rw [published, hparse]
  rfl

theorem published_of_unknown [Wording] (hdb : db.Conforms) (h : db.project? projectId = none)
    (now : Int) :
    published (IdFormat.project.format projectId) now db =
      .error (.notFound s!"project {projectId}") := by
  rw [published, IdFormat.parse_format]
  show ((db.getProject projectId).mapError ApiError.ofStore >>= _) = _
  rw [hdb.getProject_of_none h]
  rfl

theorem published_of_known [Wording] (hdb : db.Conforms) {row : ProjectRow}
    (h : db.project? projectId = some row) {keys : List SessionPublicKey}
    (hkeys : SessionToken.activeKeys projectId now db = .ok keys) :
    published (IdFormat.project.format projectId) now db =
      .ok (JwkSet.mk (keys.map (·.toJwk))).toJson := by
  obtain ⟨_, _, -, -, hread⟩ := hdb.getProject_of_some h
  rw [published, IdFormat.parse_format]
  show ((db.getProject projectId).mapError ApiError.ofStore >>= _) = _
  rw [hread]
  show ((SessionToken.activeKeys projectId now db).mapError ApiError.ofSession >>= _) = _
  rw [hkeys]
  rfl

/-! ## The agreement -/

/-- **Published keys and verification.** In every reachable state and at every time, the keys that
are published for a project are those in its rows that have not expired, and the check of a token's
signature, with which verification begins, lets a token through exactly if one of them is named by
its header and has signed it. The keys are told to whoever asks for those of a project that exists; a
project that does not exist is not found, and a text that is no project's id is refused. -/
theorem published_agrees [Wording] {σ : Type} {p : KeyProtector σ} {w : World σ}
    (hw : Service.Reachable p w.tables) (s : Server) (now : Int) :
    (∀ r text, Request.AsksForKeys r text →
      (∀ projectId, text ≠ IdFormat.project.format projectId) →
      ∃ reply, ((s.answer r now).run w).1 = .ok reply ∧ reply.status = 400) ∧
    ∀ projectId, ∃ rows keys, Publication w.tables projectId now rows keys ∧
      (∀ c token, SessionToken.verify (σ := σ) c projectId token now =
        SessionToken.checkSignature c projectId token now >>=
          SessionToken.identify c projectId now) ∧
      (∀ c token,
        (∃ found, ((SessionToken.checkSignature c projectId token now).run w).1 = .ok found) ↔
          ∃ t, CompactToken.parse? token = some t ∧ ∃ k ∈ keys, k.HasSigned t) ∧
      (Request.forKeys (IdFormat.project.format projectId)).AsksForKeys
        (IdFormat.project.format projectId) ∧
      ∀ r, Request.AsksForKeys r (IdFormat.project.format projectId) →
        ((∃ row ∈ w.tables.projects, row.id = projectId.text) →
          ((s.answer r now).run w).1 = .ok (.withBody 200 (.json (JwkSet.mk keys).toJson))) ∧
        ((∀ row ∈ w.tables.projects, row.id ≠ projectId.text) →
          ∃ reply, ((s.answer r now).run w).1 = .ok reply ∧ reply.status = 404) := by
  have hdb := hw.store.conforms
  have hcurve : ∀ row ∈ w.tables.signingKeys, row.OnCurve := by
    intro row hrow
    obtain ⟨pair, hmade⟩ := hw.madeFrom row hrow
    exact hmade.onCurve
  have hanswer : ∀ {r text}, Request.AsksForKeys r text →
      ((s.answer r now).run w).1 = .ok (replyTo (published text now w.tables)) := by
    intro r text hasks
    rw [(s.reads_answer r now w).1]
    exact congrArg Except.ok (reply_of_asksForKeys s hasks now w.tables)
  constructor
  · intro r text hasks hnone
    exact ⟨_, hanswer hasks, by rw [published_of_not_id hnone]; rfl⟩
  intro projectId
  obtain ⟨keys, hkeys, hpublication⟩ := exists_publication hdb hcurve projectId now
  refine ⟨_, _, hpublication, fun c token => ?_, fun c token => ?_, asksForKeys_format projectId,
    fun r hasks => ⟨?_, ?_⟩⟩
  · exact SessionToken.verify_eq c projectId token now
  · rw [(SessionToken.reads_checkSignature c projectId token now w).1, Prod.exists, exists_comm]
    refine exists_congr fun t => ?_
    simp only [SessionToken.signedIn_eq_ok_iff hdb (hw.keysReadable projectId now), exists_and_left]
    exact and_congr_right fun _ => exists_comm.trans (hpublication.signed_iff t)
  · rintro ⟨row, hrow, hid⟩
    cases hknown : w.tables.project? projectId with
    | none => exact absurd hid (Database.project?_eq_none_iff.1 hknown row hrow)
    | some found =>
      rw [hanswer hasks, published_of_known hdb hknown hkeys]
      rfl
  · intro hnone
    have hunknown := Database.project?_eq_none_iff.2 hnone
    exact ⟨_, hanswer hasks, by rw [published_of_unknown hdb hunknown]; rfl⟩

/-- The console publishes one key, under which its owner's token is signed. No other project is
found, and half an id is refused. -/
theorem published_agrees_sampleWorld :
    let s : Server := ⟨"", .ofNat 1, {}⟩
    let replyFor := fun text =>
      ((s.answer (Request.forKeys text) 299).run SessionToken.sampleWorld).1
    (∃ k : Jwk, replyFor (IdFormat.project.format (.ofNat 1)) =
        .ok (.withBody 200 (.json (JwkSet.mk [k]).toJson)) ∧
      k.kid = IdFormat.signingKey.format (.ofNat 5)) ∧
    (∃ found, ((SessionToken.checkSignature {} (.ofNat 1) SessionToken.sampleToken.render 299).run
      SessionToken.sampleWorld).1 = .ok found) ∧
    (∃ reply, replyFor (IdFormat.project.format (.ofNat 9)) = .ok reply ∧ reply.status = 404) ∧
    ∃ reply, replyFor "project" = .ok reply ∧ reply.status = 400 := by
  intro s replyFor
  obtain ⟨hrefused, hagrees⟩ := published_agrees SessionToken.reachable_sampleWorld s 299
  obtain ⟨rows, keys, hpublication, -, hsigned, hasks, hserved⟩ := hagrees (.ofNat 1)
  have hrows : rows = [SessionToken.sampleRow] := by
    refine List.perm_singleton.1 ((List.perm_ext_iff_of_nodup hpublication.nodup_rows
      (List.nodup_singleton _)).2 fun row => ?_)
    rw [hpublication.mem_rows, SessionToken.signingKeys_sampleWorld]
    refine and_iff_left_of_imp fun hrow => ?_
    rw [List.mem_singleton.1 hrow]
    exact ⟨rfl, by decide⟩
  have hpublished := hpublication.published
  rw [hrows] at hpublished
  obtain ⟨k, _, hk, hnil, rfl⟩ := List.forall₂_cons_left_iff.1 hpublished
  obtain rfl := List.forall₂_nil_left_iff.1 hnil
  obtain ⟨id, hid, hkid⟩ := hk.kid
  obtain rfl : .ofNat 5 = id := Uuid.text_injective hid
  obtain ⟨key, hkey, hvalid, hx, hy⟩ := hk.coordinates
  obtain rfl := Except.ok.inj (SessionToken.madeFrom_sampleRow.readable.symm.trans hkey)
  refine ⟨⟨k, ?_, hkid⟩, ?_, ?_, ?_⟩
  · refine (hserved _ hasks).1 ?_
    obtain ⟨row, hrow, -, hproject⟩ := SessionToken.backs_sampleWorld
    exact ⟨row, hrow, hproject⟩
  · -- The owner's token names this key, and its signature belongs to it.
    obtain ⟨header, hheader, halg, hname⟩ : SessionToken.Names SessionToken.sampleToken.header
        (.ofNat 5) := SessionToken.names_encodePart_iff.2 rfl
    refine (hsigned _ _).2 ⟨_, SessionToken.parse?_render_sign, k, List.mem_singleton_self _,
      ⟨header, hheader, halg, hkid ▸ hname⟩, _, Jwk.publicKey?_of_coordinates hvalid hx hy, ?_⟩
    exact SessionToken.signed_sign_iff.2 SessionToken.agrees_sampleToken
  · obtain ⟨_, _, -, -, -, hasks', hserved'⟩ := hagrees (.ofNat 9)
    refine (hserved' _ hasks').2 ?_
    rw [SessionToken.tables_sampleWorld]
    intro row hrow
    rw [List.mem_singleton.1 hrow]
    exact fun h => absurd (Uuid.text_injective h) (by decide)
  · have hplain : "project".toList.all isPlainChar = true := by decide +kernel
    refine hrefused _ _ (asksForKeys_forKeys (by decide) (List.all_eq_true.1 hplain)) ?_
    intro projectId hname
    have hlist := IdFormat.toList_format IdFormat.project projectId
    rw [← hname] at hlist
    have hlength := congrArg List.length hlist
    rw [List.length_append, List.length_cons,
      show IdFormat.project.label = "project" from rfl] at hlength
    omega

end Api
end Gatehouse
