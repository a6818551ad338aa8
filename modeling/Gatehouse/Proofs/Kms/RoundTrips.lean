import Gatehouse.Http.Scripted
import Gatehouse.Proofs.Kms.Service

/-!
# Requests of a sequence of calls

The calls of a client leave a record in a network that keeps one. It falls into one group of
requests for each call, in the order of the calls. A client of the REST interface makes the request
of its call once, and is then referred on up to ten times: it makes the request again elsewhere, or
only looks there. A client of the JSON interface makes its request again, up to three times in all,
while nothing but transient replies come. So the record is the calls in order only as long as no
reply refers elsewhere, or is transient.
-/

namespace Gatehouse

variable {σ : Type}

open Http (EndsWith Exchange Network Refers Request Trail)

/-! ## One request, made again -/

namespace Aws

/-- An exchange after which the request is made again: it had no answer, or a transient one. -/
def Retries (e : Exchange) : Prop :=
  ∀ response, e.answer = .ok response → isTransient response.toReply = true

/-- An exchange leads to another attempt at its request. -/
def Leads (e : Exchange) (next : Request) : Prop :=
  Retries e ∧ next = e.request

section SendAgain

variable {net : Network σ} {r : Request} {again : Nat}
  {answer : Except Http.Unanswered Http.Response} {s mid : σ}

theorem sendAgain_succ_of_retries (hsent : net.send r s = (answer, mid))
    (h : Retries ⟨r, answer⟩) : sendAgain net r (again + 1) s = sendAgain net r again mid := by
  rw [sendAgain, hsent]
  cases answer with
  | error causes => rfl
  | ok response => exact if_pos (h response rfl)

theorem sendAgain_succ_of_not_retries (hsent : net.send r s = (answer, mid))
    (h : ¬ Retries ⟨r, answer⟩) : sendAgain net r (again + 1) s = (answer, mid) := by
  rw [sendAgain, hsent]
  cases answer with
  | error causes =>
    refine absurd (fun response hresponse => ?_) h
    cases hresponse
  | ok response =>
    refine if_neg fun htransient => h ?_
    rintro _ ⟨⟩
    exact htransient

end SendAgain

/-- A request that may be made again leaves its attempts in the record, and the answer is that of
the last one. -/
theorem sendAgain_recorded (net : Network σ) (r : Request) (again : Nat) (s : σ)
    (log : List Exchange) : ∃ earlier last, Trail Leads r earlier last ∧ earlier.length ≤ again ∧
      sendAgain net.recorded r again (s, log) =
        (last.answer, (sendAgain net r again s).2, log ++ (earlier ++ [last])) ∧
      (sendAgain net r again s).1 = last.answer := by
  -- Each attempt counts down and puts its own exchange before those of the attempts that follow.
  induction again generalizing s log with
  | zero => exact ⟨[], _, .last (net.send r s).1, Nat.le_refl 0, rfl, rfl⟩
  | succ again ih =>
    rcases hsent : net.send r s with ⟨answer, mid⟩
    have hrecorded : net.recorded.send r (s, log) = (answer, mid, log ++ [⟨r, answer⟩]) := by
      rw [Network.send_recorded, hsent]
    by_cases hretries : Retries ⟨r, answer⟩
    · obtain ⟨earlier, last, htrail, hlength, hagain, hlast⟩ := ih mid (log ++ [⟨r, answer⟩])
      rw [List.append_assoc] at hagain
      rw [sendAgain_succ_of_retries hrecorded hretries, sendAgain_succ_of_retries hsent hretries]
      exact ⟨_, last, .cons ⟨hretries, rfl⟩ htrail, Nat.succ_le_succ hlength, hagain, hlast⟩
    · -- An answer that is not transient is the last one, however many attempts are left.
      rw [sendAgain_succ_of_not_retries hrecorded hretries,
        sendAgain_succ_of_not_retries hsent hretries]
      exact ⟨[], _, .last answer, Nat.zero_le _, rfl, rfl⟩

end Aws

namespace KmsClient

/-! ## One call -/

/-- An exchange leads a client to a further request. -/
def Leads (client : KmsClient) : Exchange → Request → Prop :=
  match client with
  | aws _ => Aws.Leads
  | gcp _ => Refers

/-- How many further requests a client makes for one call at most. -/
def again : KmsClient → Nat
  | aws _ => 2
  | gcp _ => Http.maxRedirects

/-- A client can make its requests: if it needs a token there is one, and its addresses are of the
web. -/
structure Ready (client : KmsClient) (net : Network σ) : Prop where
  token : client.backend = .gcpKmsV1 → ∀ s, ∃ token mid, net.token s = (.ok token, mid)
  usable : client.backend = .gcpKmsV1 → ∀ op token payload,
    (client.request op token payload).problem? = none

/-- A call is told as a failure of its service and its operation. -/
def Fails (client : KmsClient) (op : KmsOperation) (outcome : Except KmsError Bytes) : Prop :=
  ∃ detail, outcome = .error (.backend client.backend.name op.name detail)

/-- A client is not led on by being referred elsewhere. -/
def StaysWith (client : KmsClient) (last : Exchange) : Prop :=
  client.backend = .awsKmsV1 ∨ ∀ next, ¬ Refers last next

/-- What a call makes of its last exchange. A failed reply, and none at all, is a failure; so is a
reply that refers on for once too often. -/
structure Reports [Wording] (client : KmsClient) (op : KmsOperation) (last : Exchange)
    (outcome : Except KmsError Bytes) : Prop where
  told : ∀ response, last.answer = .ok response → client.StaysWith last →
    outcome = client.told op response.toReply
  fails : (∀ response, last.answer = .ok response →
    Http.Status.isSuccess response.status = false) → client.Fails op outcome

/-- What a call sends, and what it makes of it. A call that sends nothing fails. One that sends
something first makes the request of its operation on its payload, then those that one exchange
after the other leads to, and reports on the last exchange. -/
def Sends [Wording] (client : KmsClient) (op : KmsOperation) (payload : Bytes)
    (outcome : Except KmsError Bytes) (sent : List Exchange) : Prop :=
  (sent = [] ∧ client.Fails op outcome) ∨
    ∃ token earlier last, sent = earlier ++ [last] ∧
      Trail client.Leads (client.request op token payload) earlier last ∧
      earlier.length ≤ client.again ∧ client.Reports op last outcome

/-- A request that a call can come to. It asks for the call; or it is made of another server that a
client of the REST interface has been referred to, and then it carries the payload of the call or
asks for nothing but what is there. -/
def Concerns (client : KmsClient) (op : KmsOperation) (payload : Bytes) (r : Request) : Prop :=
  client.Asks op payload r ∨ client.backend = .gcpKmsV1 ∧
    (r.method = "POST" ∧ Carries r (client.given op) (.blob payload) ∨
      r.method = "GET" ∧ r.body = "")

section Call

variable [Wording] (client : KmsClient) (net : Network σ) (op : KmsOperation) (payload : Bytes)
  (s : σ) (log : List Exchange)

/-- What a call makes of an answer. -/
def answered : Except Http.Unanswered Http.Response → Except KmsError Bytes
  | .ok response => client.told op response.toReply
  | .error causes =>
    match client with
    | aws _ => .error (Aws.failure op.aws (Wording.awsSilence causes))
    | gcp _ => .error (Gcp.failure op.gcp causes.message)

theorem fails_answered_error (causes : Http.Unanswered) :
    client.Fails op (client.answered op (.error causes)) := by
  cases client with
  | aws c => exact ⟨_, by rw [answered, Aws.failure, op.name_aws]; rfl⟩
  | gcp c => exact ⟨_, by rw [answered, Gcp.failure, op.name_gcp]; rfl⟩

theorem reports_answered (last : Exchange) :
    client.Reports op last (client.answered op last.answer) where
  told response hresponse _ := by rw [hresponse, answered]
  fails h := by
    rcases hanswer : last.answer with causes | response
    · exact fails_answered_error client op causes
    · exact told_of_not_isSuccess client op (h response hanswer)

/-- A client that follows references reports on the exchange that it ends with. -/
theorem reports_of_endsWith (c : Gcp.Client) {last : Exchange}
    {outcome : Except Http.Unanswered Http.Response} (h : EndsWith last outcome) :
    (gcp c).Reports op last ((gcp c).answered op outcome) := by
  rcases h with ⟨-, rfl⟩ | ⟨⟨next, hnext⟩, causes, rfl⟩
  · exact reports_answered (gcp c) op last
  · refine ⟨fun response _ hstays => ?_, fun _ => fails_answered_error (gcp c) op causes⟩
    rcases hstays with hbackend | hstays
    · cases hbackend
    · exact absurd hnext (hstays next)

theorem run_aws (c : Aws.Client) : op.run ((aws c).protector net) payload s =
    ((aws c).answered op (Aws.sendAgain net (c.request op.aws payload) 2 s).1,
      (Aws.sendAgain net (c.request op.aws payload) 2 s).2) := by
  rw [run_protector_aws, Aws.call]
  rcases Aws.sendAgain net (c.request op.aws payload) 2 s with ⟨causes | response, s'⟩
  · rfl
  · rfl

theorem run_gcp (c : Gcp.Client) {token : String} {mid : σ}
    (htoken : net.token s = (.ok token, mid)) : op.run ((gcp c).protector net) payload s =
    ((gcp c).answered op
        (net.follow Http.maxRedirects (c.request op.gcp token payload) mid).1,
      (net.follow Http.maxRedirects (c.request op.gcp token payload) mid).2) := by
  rw [run_protector_gcp, Gcp.call, htoken]
  dsimp only
  rcases net.follow Http.maxRedirects (c.request op.gcp token payload) mid with
    ⟨causes | response, s'⟩
  · rfl
  · rfl

theorem run_gcp_of_no_token (c : Gcp.Client) {e : String} {mid : σ}
    (htoken : net.token s = (.error e, mid)) : op.run ((gcp c).protector net) payload s =
    (.error (Gcp.failure op.gcp ("token: " ++ e)), mid) := by
  rw [run_protector_gcp, Gcp.call, htoken]

/-- The record of a network does not change a call of the JSON interface. -/
theorem run_recorded_aws (c : Aws.Client) : ∃ sent, sent ≠ [] ∧
    op.run ((aws c).protector net.recorded) payload (s, log) =
      ((op.run ((aws c).protector net) payload s).1, (op.run ((aws c).protector net) payload s).2,
        log ++ sent) ∧
    (aws c).Sends op payload (op.run ((aws c).protector net) payload s).1 sent := by
  obtain ⟨earlier, last, htrail, hlength, hrecorded, hanswer⟩ :=
    Aws.sendAgain_recorded net (c.request op.aws payload) 2 s log
  refine ⟨earlier ++ [last], List.append_ne_nil_of_right_ne_nil _ (List.cons_ne_nil _ _), ?_,
    .inr ⟨"", earlier, last, rfl, htrail, hlength, ?_⟩⟩
  · rw [run_aws, run_aws, hrecorded, hanswer]
  · rw [run_aws, hanswer]
    exact reports_answered _ op last

/-- The record of a network does not change a call of the REST interface. -/
theorem run_recorded_gcp (c : Gcp.Client) : ∃ sent, ((gcp c).Ready net → sent ≠ []) ∧
    op.run ((gcp c).protector net.recorded) payload (s, log) =
      ((op.run ((gcp c).protector net) payload s).1, (op.run ((gcp c).protector net) payload s).2,
        log ++ sent) ∧
    (gcp c).Sends op payload (op.run ((gcp c).protector net) payload s).1 sent := by
  rcases htoken : net.token s with ⟨e | token, mid⟩
  · -- Without a token nothing is sent.
    have hrecorded : net.recorded.token (s, log) = (.error e, mid, log) := by
      rw [Network.token_recorded, htoken]
    rw [run_gcp_of_no_token net.recorded op payload _ c hrecorded,
      run_gcp_of_no_token net op payload s c htoken]
    refine ⟨[], fun hready => ?_, by rw [List.append_nil], .inl ⟨rfl, ?_⟩⟩
    · obtain ⟨token, mid', hsome⟩ := hready.token rfl s
      rw [htoken] at hsome
      cases hsome
    · exact ⟨_, by rw [Gcp.failure, op.name_gcp]; rfl⟩
  · have hrecorded : net.recorded.token (s, log) = (.ok token, mid, log) := by
      rw [Network.token_recorded, htoken]
    rw [run_gcp net.recorded op payload _ c hrecorded, run_gcp net op payload s c htoken]
    cases hproblem : (c.request op.gcp token payload).problem? with
    | none =>
      obtain ⟨earlier, last, htrail, hlength, hrun, hends⟩ :=
        net.follows Http.maxRedirects hproblem mid log
      rw [hrun]
      exact ⟨earlier ++ [last],
        fun _ => List.append_ne_nil_of_right_ne_nil _ (List.cons_ne_nil _ _), rfl,
        .inr ⟨token, earlier, last, rfl, htrail, hlength, reports_of_endsWith op c hends⟩⟩
    | some causes =>
      -- To an address that is not of the web nothing is sent.
      rw [Network.follow_of_error (Network.request_of_problem hproblem),
        Network.follow_of_error (Network.request_of_problem hproblem)]
      refine ⟨[], fun hready => ?_, by rw [List.append_nil],
        .inl ⟨rfl, fails_answered_error (gcp c) op causes⟩⟩
      have hnone := hready.usable rfl op token payload
      rw [request, hproblem] at hnone
      cases hnone

/-- The record of a network does not change a call; it grows by what the call sends. -/
theorem run_recorded : ∃ sent, (client.Ready net → sent ≠ []) ∧
    op.run (client.protector net.recorded) payload (s, log) =
      ((op.run (client.protector net) payload s).1, (op.run (client.protector net) payload s).2,
        log ++ sent) ∧
    client.Sends op payload (op.run (client.protector net) payload s).1 sent := by
  cases client with
  | aws c =>
    obtain ⟨sent, hne, hrun, hsends⟩ := run_recorded_aws net op payload s log c
    exact ⟨sent, fun _ => hne, hrun, hsends⟩
  | gcp c => exact run_recorded_gcp net op payload s log c

end Call

section Sends

variable {client : KmsClient} {op : KmsOperation} {payload : Bytes}
  {outcome : Except KmsError Bytes} {sent : List Exchange}

theorem Concerns.post_or_get {r : Request} (h : client.Concerns op payload r) :
    r.method = "POST" ∧ Carries r (client.given op) (.blob payload) ∨
      r.method = "GET" ∧ r.body = "" :=
  h.elim (fun hasks => .inl ⟨hasks.method, hasks.carries⟩) And.right

/-- What concerns a call leads to nothing but what concerns the call. -/
theorem Concerns.of_leads {e : Exchange} {next : Request} (hleads : client.Leads e next)
    (h : client.Concerns op payload e.request) : client.Concerns op payload next := by
  cases client with
  | aws c =>
    obtain ⟨-, rfl⟩ := hleads
    exact h
  | gcp c =>
    obtain ⟨response, -, hnext⟩ := hleads
    obtain ⟨url, rfl | rfl⟩ := Request.eq_moved_or_looking hnext
    · -- A request that is made elsewhere keeps its method and its body.
      exact .inr ⟨rfl, h.post_or_get⟩
    · have hmethod : e.request.method ≠ "HEAD" := by
        rcases h.post_or_get with ⟨hpost, -⟩ | ⟨hget, -⟩
        · rw [hpost]
          decide
        · rw [hget]
          decide
      exact .inr ⟨rfl, .inr ⟨if_neg hmethod, rfl⟩⟩

variable [Wording]

/-- What a call sends first asks for its operation on its payload. -/
theorem Sends.asks (h : client.Sends op payload outcome sent) :
    ∀ e ∈ sent.head?, client.Asks op payload e.request := by
  rcases h with ⟨rfl, -⟩ | ⟨token, earlier, last, rfl, htrail, -⟩
  · exact nofun
  · intro e he
    rw [htrail.request_of_mem_head? e he]
    exact asks_request client op token payload

theorem Sends.concerns (h : client.Sends op payload outcome sent) :
    ∀ e ∈ sent, client.Concerns op payload e.request := by
  rcases h with ⟨rfl, -⟩ | ⟨token, earlier, last, rfl, htrail, -⟩
  · exact nofun
  · exact htrail.forall_request (.inl (asks_request client op token payload))
      fun e next hleads hconcerns => hconcerns.of_leads hleads

theorem Sends.length_le (h : client.Sends op payload outcome sent) :
    sent.length ≤ client.again + 1 := by
  rcases h with ⟨rfl, -⟩ | ⟨token, earlier, last, rfl, -, hlength, -⟩
  · exact Nat.zero_le _
  · rw [List.length_append]
    exact Nat.succ_le_succ hlength

/-- A call that sends something sends one request, unless an exchange leads to a further one. -/
theorem Sends.eq_singleton (h : client.Sends op payload outcome sent) (hne : sent ≠ [])
    (honce : ∀ e ∈ sent, ∀ next, ¬ client.Leads e next) : ∃ e, sent = [e] := by
  rcases h with ⟨rfl, -⟩ | ⟨token, earlier, last, rfl, htrail, -⟩
  · exact absurd rfl hne
  · suffices hnone : earlier = [] by
      subst hnone
      exact ⟨last, rfl⟩
    rw [List.eq_nil_iff_forall_not_mem]
    intro e he
    obtain ⟨next, hnext⟩ := htrail.leads_of_mem e he
    exact honce e (List.mem_append_left _ he) next hnext

end Sends

end KmsClient

/-! ## A sequence of calls -/

/-- The outcomes of calls that are made one after the other. -/
def KeyProtector.runCalls (p : KeyProtector σ) :
    List (KmsOperation × Bytes) → σ → List (Except KmsError Bytes) × σ
  | [], s => ([], s)
  | (op, payload) :: calls, s =>
    ((op.run p payload s).1 :: (p.runCalls calls (op.run p payload s).2).1,
      (p.runCalls calls (op.run p payload s).2).2)

namespace KmsClient

section Calls

variable [Wording]

/-- The record of a network does not change a sequence of calls. It grows by what the calls send, one
call after the other. -/
theorem runCalls_recorded (client : KmsClient) (net : Network σ)
    (calls : List (KmsOperation × Bytes)) (s : σ) (log : List Exchange) :
    ∃ results : List (Except KmsError Bytes × List Exchange),
      (client.protector net.recorded).runCalls calls (s, log) =
        (results.map Prod.fst, ((client.protector net).runCalls calls s).2,
          log ++ results.flatMap Prod.snd) ∧
      ((client.protector net).runCalls calls s).1 = results.map Prod.fst ∧
      List.Forall₂ (fun call result => client.Sends call.1 call.2 result.1 result.2 ∧
        (client.Ready net → result.2 ≠ [])) calls results := by
  -- The record so far is kept general: the calls that follow begin with what this one has left.
  induction calls generalizing s log with
  | nil => exact ⟨[], by rw [List.flatMap_nil, List.append_nil]; rfl, rfl, .nil⟩
  | cons call calls ih =>
    obtain ⟨op, payload⟩ := call
    obtain ⟨sent, hne, hrun, hsends⟩ := run_recorded client net op payload s log
    obtain ⟨results, hrest, houtcomes, hresults⟩ :=
      ih (op.run (client.protector net) payload s).2 (log ++ sent)
    refine ⟨((op.run (client.protector net) payload s).1, sent) :: results, ?_, ?_,
      .cons ⟨hsends, hne⟩ hresults⟩
    · rw [KeyProtector.runCalls, hrun, hrest, List.append_assoc]
      rfl
    · rw [KeyProtector.runCalls, houtcomes]
      rfl

/-- If every call sends something and nothing leads to a further request, the record is the
calls. -/
theorem asks_flatMap {client : KmsClient} {calls : List (KmsOperation × Bytes)}
    {results : List (Except KmsError Bytes × List Exchange)}
    (h : List.Forall₂ (fun call result => client.Sends call.1 call.2 result.1 result.2 ∧
      result.2 ≠ []) calls results)
    (honce : ∀ e ∈ results.flatMap Prod.snd, ∀ next, ¬ client.Leads e next) :
    List.Forall₂ (fun call e => client.Asks call.1 call.2 e.request) calls
      (results.flatMap Prod.snd) := by
  induction h with
  | nil => exact .nil
  | @cons call result calls results hcall _ ih =>
    obtain ⟨hsends, hne⟩ := hcall
    rw [List.flatMap_cons, List.forall_mem_append] at honce
    rw [List.flatMap_cons]
    -- A group of one exchange is the request of its call, so the groups together are the calls.
    obtain ⟨e, hone⟩ := hsends.eq_singleton hne honce.1
    have hasks : client.Asks call.1 call.2 e.request := hsends.asks e (hone ▸ rfl)
    rw [hone]
    exact .cons hasks (ih honce.2)

/-- **The requests of a sequence of calls.** Whatever the service and other servers answer, the
record is the requests of the calls, one group after the other in the order of the calls, and
keeping a record changes no outcome. A group is a trail. It starts with the request of the call's
operation on its payload, and each exchange of it but the last leads to the next request. For a
client of the JSON interface that is the same request again, up to three times in all, after a
transient reply or none. For a client of the REST interface that is the request that a reply refers
to, up to ten times: the payload goes to another server, or nothing but a question. The call reports
on the last exchange; a failed reply to that, and no reply, is told as a failure. A client that is
ready sends at least one request for each call. So the record is exactly the calls in order if no
exchange leads to a further request: for the one client if no reply is transient or missing, for the
other if none refers elsewhere. -/
theorem requests_of_calls (client : KmsClient) (net : Network σ)
    (calls : List (KmsOperation × Bytes)) (s : σ) :
    let record := ((client.protector net.recorded).runCalls calls (s, [])).2.2
    ∃ results : List (Except KmsError Bytes × List Exchange),
      ((client.protector net).runCalls calls s).1 = results.map Prod.fst ∧
      ((client.protector net.recorded).runCalls calls (s, [])).1 = results.map Prod.fst ∧
      record = results.flatMap Prod.snd ∧
      List.Forall₂ (fun call result =>
        client.Sends call.1 call.2 result.1 result.2 ∧
        (∀ e ∈ result.2.head?, client.Asks call.1 call.2 e.request) ∧
        (∀ e ∈ result.2, client.Concerns call.1 call.2 e.request) ∧
        result.2.length ≤ client.again + 1 ∧
        (client.Ready net → result.2 ≠ [])) calls results ∧
      (client.Ready net → (∀ e ∈ record, ∀ next, ¬ client.Leads e next) →
        List.Forall₂ (fun call e => client.Asks call.1 call.2 e.request) calls record) := by
  intro record
  obtain ⟨results, hrecorded, houtcomes, hresults⟩ := runCalls_recorded client net calls s []
  have hrecord : record = results.flatMap Prod.snd := congrArg (·.2.2) hrecorded
  refine ⟨results, houtcomes, congrArg Prod.fst hrecorded, hrecord, ?_, fun hready honce => ?_⟩
  · refine hresults.imp fun call result h => ?_
    exact ⟨h.1, h.1.asks, h.1.concerns, h.1.length_le, h.2⟩
  · rw [hrecord] at honce ⊢
    exact asks_flatMap (hresults.imp fun call result h => ⟨h.1, h.2 hready⟩) honce

end Calls

theorem Serves.ready {client : KmsClient} {net : Network σ} {f : KmsOperation → Bytes → Bytes}
    (h : client.Serves net f) : client.Ready net :=
  ⟨h.token, h.usable⟩

/-- Two calls for different operations. -/
def sampleCalls : List (KmsOperation × Bytes) := [(.encrypt, [0, 255]), (.decrypt, [1])]

/-- A service with a REST interface that refers nowhere gets one request for each of two calls, in
their order. -/
theorem requests_of_calls_backwards :
    List.Forall₂ (fun call e => (gcp sampleGcpClient).Asks call.1 call.2 e.request) sampleCalls
      (((gcp sampleGcpClient).protector (gcp sampleGcpClient).backwards.recorded).runCalls
        sampleCalls ((), [])).2.2 := by
  have hanswers : (((gcp sampleGcpClient).protector
      (gcp sampleGcpClient).backwards.recorded).runCalls sampleCalls ((), [])).2.2.all
        (fun e => e.answer.toOption.all (·.location = none)) = true := by
    decide +kernel
  obtain ⟨_, -, -, -, -, honce⟩ :=
    requests_of_calls (gcp sampleGcpClient) (gcp sampleGcpClient).backwards sampleCalls ()
  refine honce serves_backwards_gcp.ready ?_
  rintro e he next ⟨response, hanswer, hnext⟩
  have hnowhere : response.location = none := by
    have hall := List.all_eq_true.1 hanswers e he
    rw [hanswer] at hall
    exact of_decide_eq_true hall
  rw [Request.redirected?, hnowhere] at hnext
  cases hnext

/-- Not every call makes one request at most: to a service that first answers with an internal error
a client of the JSON interface makes the request of its one call again. -/
theorem requests_not_once : ¬ ∀ (client : KmsClient) (base : String) (script : Http.Script)
    (calls : List (KmsOperation × Bytes)),
    ((client.protector (Http.Script.network base).recorded).runCalls calls
      (script, [])).2.2.length ≤ calls.length := by
  intro h
  have hone := h sampleAws Aws.defaultEndpoint { replies := [⟨500, ""⟩] } [(.encrypt, [0, 255])]
  revert hone
  decide +kernel

end KmsClient
end Gatehouse
