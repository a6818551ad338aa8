import Gatehouse.Proofs.Http.Trail
import Gatehouse.Proofs.Kms.Payload

/-!
# Key management services as key protectors

A service that encrypts and decrypts what it is sent is, through either client, a key protector that
does the same. What comes of any other reply depends on its status and its payload, and is told as a
failure of the service or of the reply.
-/

namespace Gatehouse

/-- What a key protector does with a payload. -/
inductive KmsOperation where
  | encrypt
  | decrypt
deriving DecidableEq, Repr

namespace KmsOperation

variable {σ : Type}

/-- The name of an operation in failures. -/
def name : KmsOperation → String
  | encrypt => "encrypt"
  | decrypt => "decrypt"

/-- An operation as the JSON interface has it. -/
def aws : KmsOperation → Aws.Operation
  | encrypt => Aws.encryption
  | decrypt => Aws.decryption

/-- An operation as the REST interface has it. -/
def gcp : KmsOperation → Gcp.Operation
  | encrypt => Gcp.encryption
  | decrypt => Gcp.decryption

/-- An operation of a key protector. -/
def run (p : KeyProtector σ) : KmsOperation → Bytes → σ → Except KmsError Bytes × σ
  | encrypt => p.encrypt
  | decrypt => p.decrypt

theorem name_aws (op : KmsOperation) : op.aws.name = op.name := by
  cases op <;> rfl

theorem name_gcp (op : KmsOperation) : op.gcp.name = op.name := by
  cases op <;> rfl

end KmsOperation

namespace KmsClient

variable {σ : Type} {client : KmsClient} {net : Http.Network σ} {op : KmsOperation}
  {payload : Bytes} {reply : Http.Reply} {s s' : σ}

/-! ## Requests -/

/-- The request of an operation. Only one of the services takes an access token. -/
def request (client : KmsClient) (op : KmsOperation) (token : String) (payload : Bytes) :
    Http.Request :=
  match client with
  | aws c => c.request op.aws payload
  | gcp c => c.request op.gcp token payload

/-- The field of the payload in a request. -/
def given (client : KmsClient) (op : KmsOperation) : String :=
  match client with
  | aws _ => op.aws.given
  | gcp _ => op.gcp.given

/-- The field of the payload in a reply. -/
def result (client : KmsClient) (op : KmsOperation) : String :=
  match client with
  | aws _ => op.aws.result
  | gcp _ => op.gcp.result

/-- The body of a request is an object with one value under a key. -/
def Carries (r : Http.Request) (key : String) (value : Json) : Prop :=
  ∃ ms, Json.parse? r.body = some (.object ms) ∧ Json.valuesAt ms key = [value]

/-- A request is for an operation with the key of a client. -/
def Addresses (client : KmsClient) (op : KmsOperation) (r : Http.Request) : Prop :=
  match client with
  | aws c => r.url = c.endpoint.getD Aws.defaultEndpoint ∧
      r.header? "x-amz-target" = some ("TrentService." ++ op.aws.action) ∧
      Carries r "KeyId" (.str c.keyId)
  | gcp c => r.url = s!"{c.endpoint}/v1/{c.keyName}:{op.name}"

/-- A request asks for an operation on a payload with the key of a client. -/
structure Asks (client : KmsClient) (op : KmsOperation) (payload : Bytes) (r : Http.Request) :
    Prop where
  method : r.method = "POST"
  addresses : client.Addresses op r
  carries : Carries r (client.given op) (.blob payload)

theorem Asks.unique {payload' : Bytes} {r : Http.Request} (h : client.Asks op payload r)
    (h' : client.Asks op payload' r) : payload = payload' := by
  -- Both payloads are the one value of the field in the one object that the body is.
  obtain ⟨ms, hparse, hvalues⟩ := h.carries
  obtain ⟨ms', hparse', hvalues'⟩ := h'.carries
  obtain rfl := Json.object.inj (Option.some.inj (hparse.symm.trans hparse'))
  exact Json.blob_injective (List.singleton_inj.1 (hvalues.symm.trans hvalues'))

/-- An object is read back from the body that is written for it. -/
theorem carries_render {r : Http.Request} {ms : List (String × Json)} {key : String} {value : Json}
    (hbody : r.body = (Json.obj ms).render) (hsound : ms.all (Json.isSound ·.2) = true)
    (hvalues : Json.valuesAt (ms.map fun m => (some m.1, m.2)) key = [value]) :
    Carries r key value :=
  ⟨_, hbody ▸ Json.parse?_render (by rw [Json.isSound_obj, hsound]), hvalues⟩

theorem asks_request (client : KmsClient) (op : KmsOperation) (token : String) (payload : Bytes) :
    client.Asks op payload (client.request op token payload) := by
  cases client with
  | aws c =>
    have hcarries : ∀ {key value}, Json.valuesAt [(some "KeyId", .str c.keyId),
        (some op.aws.given, .blob payload), (some "EncryptionAlgorithm", .str Aws.algorithm)] key =
          [value] → Carries (c.request op.aws payload) key value :=
      fun h => carries_render rfl rfl h
    refine ⟨rfl, ⟨rfl, ?_, hcarries ?_⟩, hcarries ?_⟩
    · rfl
    · cases op <;> rfl
    · cases op <;> rfl
  | gcp c =>
    refine ⟨rfl, ?_, carries_render rfl rfl ?_⟩
    · cases op <;> rfl
    · cases op <;> rfl

/-! ## Replies -/

/-- The body of a reply has a value in the field of the payload. -/
def Holds (client : KmsClient) (op : KmsOperation) (body : String) (value : Json) : Prop :=
  match client with
  | aws _ => Aws.Holds op.aws body value
  | gcp _ => Gcp.Holds op.gcp body value

/-- The body with nothing but a payload holds that payload. -/
theorem holds_render (client : KmsClient) (op : KmsOperation) (bytes : Bytes) :
    client.Holds op (Json.obj [(client.result op, .blob bytes)]).render (.blob bytes) := by
  have hparse : Json.parse? (Json.obj [(client.result op, .blob bytes)]).render =
      some (Json.obj [(client.result op, .blob bytes)]) := Json.parse?_render rfl
  cases client with
  | aws c =>
    have hempty : (Json.obj [((aws c).result op, .blob bytes)]).render ≠ "" := by
      intro h
      rw [h] at hparse
      cases hparse
    -- All that the body has is the payload, under whichever key it is looked for.
    have honly : ∀ key, ∀ json ∈ Json.valuesAt [(some op.aws.result, .blob bytes)] key,
        json = .blob bytes := by
      intro key json hjson
      obtain ⟨m, hm, rfl⟩ := List.mem_map.1 hjson
      rw [List.mem_singleton.1 (List.mem_of_mem_filter hm)]
    refine ⟨[(some op.aws.result, .blob bytes)], ?_, ⟨?_, fun key _ json hjson => ?_,
      fun key _ json hjson => ?_⟩, ?_⟩
    · rw [Aws.Members, if_neg hempty]
      exact hparse
    · exact List.forall_mem_singleton.2 rfl
    · exact ⟨some _, honly key json hjson⟩
    · exact ⟨some _, honly key json hjson⟩
    · cases op <;> rfl
  | gcp c =>
    refine ⟨_, hparse, ?_⟩
    rw [Json.fields?_obj]
    cases op <;> rfl

/-- A call ends with a reply. One client makes its request again while replies are transient, the
other makes it with a token if there is one, and goes where it is referred to. -/
def Receives (client : KmsClient) (net : Http.Network σ) (op : KmsOperation) (payload : Bytes)
    (s : σ) (reply : Http.Reply) (s' : σ) : Prop :=
  match client with
  | aws c => ∃ response, Aws.sendAgain net (c.request op.aws payload) 2 s = (.ok response, s') ∧
      response.toReply = reply
  | gcp c => ∃ token mid response, net.token s = (.ok token, mid) ∧
      net.follow Http.maxRedirects (c.request op.gcp token payload) mid = (.ok response, s') ∧
      response.toReply = reply

/-- A response that is not transient is the one that a call ends with. -/
theorem sendAgain_of_not_isTransient {r : Http.Request} {response : Http.Response}
    (hsent : net.send r s = (.ok response, s')) (hlast : Aws.isTransient response.toReply = false)
    (again : Nat) : Aws.sendAgain net r again s = (.ok response, s') := by
  cases again with
  | zero => exact hsent
  | succ again =>
    rw [Aws.sendAgain, hsent]
    dsimp only
    rw [hlast]
    rfl

section Told

variable [Wording]

/-- What a call makes of the reply that it ends with. -/
def told (client : KmsClient) (op : KmsOperation) (reply : Http.Reply) : Except KmsError Bytes :=
  match client with
  | aws _ => Aws.payload op.aws reply
  | gcp _ => Gcp.payload op.gcp reply

theorem run_protector_aws (c : Aws.Client) (op : KmsOperation) :
    op.run ((aws c).protector net) = Aws.call c net op.aws := by
  cases op <;> rfl

theorem run_protector_gcp (c : Gcp.Client) (op : KmsOperation) :
    op.run ((gcp c).protector net) = Gcp.call c net op.gcp := by
  cases op <;> rfl

theorem run_of_receives (h : client.Receives net op payload s reply s') :
    op.run (client.protector net) payload s = (client.told op reply, s') := by
  cases client with
  | aws c =>
    obtain ⟨response, hsent, rfl⟩ := h
    rw [run_protector_aws, Aws.call, hsent]
    rfl
  | gcp c =>
    obtain ⟨token, mid, response, htoken, hsent, rfl⟩ := h
    rw [run_protector_gcp, Gcp.call, htoken]
    dsimp only
    rw [hsent]
    rfl

/-- A call that ends without a reply is told as a failure of the service. -/
theorem run_of_not_receives (h : ∀ reply s', ¬ client.Receives net op payload s reply s') :
    ∃ detail, (op.run (client.protector net) payload s).1 =
      .error (.backend client.backend.name op.name detail) := by
  cases client with
  | aws c =>
    rw [run_protector_aws, Aws.call, ← op.name_aws]
    rcases hsent : Aws.sendAgain net (c.request op.aws payload) 2 s with ⟨e | response, s'⟩
    · exact ⟨_, rfl⟩
    · exact absurd ⟨response, hsent, rfl⟩ (h response.toReply s')
  | gcp c =>
    rw [run_protector_gcp, Gcp.call, ← op.name_gcp]
    rcases htoken : net.token s with ⟨e | token, mid⟩
    · exact ⟨_, rfl⟩
    · dsimp only
      rcases hsent : net.follow Http.maxRedirects (c.request op.gcp token payload) mid with
        ⟨e | response, s'⟩
      · exact ⟨_, rfl⟩
      · exact absurd ⟨token, mid, response, htoken, hsent, rfl⟩ (h response.toReply s')

variable (client : KmsClient) (op : KmsOperation)

theorem told_of_not_isSuccess (h : Http.Status.isSuccess reply.status = false) :
    ∃ detail, client.told op reply = .error (.backend client.backend.name op.name detail) := by
  cases client with
  | aws c =>
    rw [← op.name_aws]
    exact Aws.payload_of_not_isSuccess h
  | gcp c =>
    rw [← op.name_gcp]
    exact Gcp.payload_of_not_isSuccess h

theorem told_eq_ok_iff (h : Http.Status.isSuccess reply.status = true) {bytes : Bytes} :
    client.told op reply = .ok bytes ↔ client.Holds op reply.body (.blob bytes) := by
  cases client with
  | aws c => exact Aws.payload_eq_ok_iff h
  | gcp c => exact Gcp.payload_eq_ok_iff h

/-- A successful reply without a payload is told as malformed. -/
theorem told_malformed_of_null (h : Http.Status.isSuccess reply.status = true)
    (hnull : client.Holds op reply.body .null) :
    ∃ detail, client.told op reply = .error (.malformedResponse detail) := by
  cases client with
  | aws c => exact (Aws.payload_malformed_iff h).2 hnull
  | gcp c =>
    -- The field has one value, so it cannot be `null` and bytes at once.
    refine Gcp.payload_malformed h fun bytes hbytes => ?_
    exact Json.null_ne_blob bytes (Gcp.Holds.unique hnull hbytes)

end Told

/-! ## Services -/

/-- A service encrypts and decrypts as a function says. Whatever asks for an operation on a payload
is answered with success and with the outcome in the field of the payload, and the client can ask:
if it needs a token there is one, and its addresses are of the web. -/
structure Serves (client : KmsClient) (net : Http.Network σ) (f : KmsOperation → Bytes → Bytes) :
    Prop where
  answers : ∀ op payload r s, client.Asks op payload r → ∃ response s',
    net.send r s = (.ok response, s') ∧ Http.Status.isSuccess response.status = true ∧
      client.Holds op response.body (.blob (f op payload))
  token : client.backend = .gcpKmsV1 → ∀ s, ∃ token mid, net.token s = (.ok token, mid)
  usable : client.backend = .gcpKmsV1 → ∀ op token payload,
    (client.request op token payload).problem? = none

theorem exists_receives {f : KmsOperation → Bytes → Bytes} (h : client.Serves net f)
    (op : KmsOperation) (payload : Bytes) (s : σ) : ∃ reply s',
      client.Receives net op payload s reply s' ∧ Http.Status.isSuccess reply.status = true ∧
        client.Holds op reply.body (.blob (f op payload)) := by
  cases client with
  | aws c =>
    obtain ⟨response, s', hsent, hsuccess, hholds⟩ := h.answers op payload _ s
      (asks_request (aws c) op "" payload)
    -- A success is never transient, so the first reply is the last one.
    have hlast : Aws.isTransient response.toReply = false := by
      rw [Aws.isTransient, hsuccess]
      rfl
    exact ⟨response.toReply, s', ⟨response, sendAgain_of_not_isTransient hsent hlast 2, rfl⟩,
      hsuccess, hholds⟩
  | gcp c =>
    obtain ⟨token, mid, htoken⟩ := h.token rfl s
    obtain ⟨response, s', hsent, hsuccess, hholds⟩ := h.answers op payload _ mid
      (asks_request (gcp c) op token payload)
    have hproblem : (c.request op.gcp token payload).problem? = none :=
      h.usable rfl op token payload
    -- Nor does a success refer elsewhere.
    have hfollowed : net.follow Http.maxRedirects (c.request op.gcp token payload) mid =
        (.ok response, s') :=
      Http.Network.follow_of_stays ((Http.Network.request_of_usable hproblem).trans hsent)
        (Http.Request.redirected?_of_isSuccess hsuccess)
    exact ⟨response.toReply, s', ⟨token, mid, response, htoken, hfollowed, rfl⟩, hsuccess, hholds⟩

/-- A service is the key protector that it is said to be. -/
theorem run_of_serves [Wording] {f : KmsOperation → Bytes → Bytes} (h : client.Serves net f)
    (op : KmsOperation) (payload : Bytes) (s : σ) :
    (op.run (client.protector net) payload s).1 = .ok (f op payload) := by
  obtain ⟨reply, s', hreceives, hsuccess, hholds⟩ := exists_receives h op payload s
  rw [run_of_receives hreceives]
  exact (told_eq_ok_iff client op hsuccess).2 hholds

/-- **Payloads are carried faithfully.** A request asks for its operation on its payload and on no
other. Of a service that encrypts and decrypts what it is asked, encryption gives what the service
makes of the payload, and decryption gives the payload back. Of any service, a call that ends
without a reply or with one that is no success is told as a failure of this service and this
operation. A successful reply gives exactly the bytes that are in its field; if the field is absent
or `null`, the reply is told as malformed. A client of the REST interface tells every other
successful reply as malformed too; a client of the JSON interface tells one that it cannot read as a
failure of the service. -/
theorem payloads_carried [Wording] (client : KmsClient) (net : Http.Network σ) :
    (∀ op token payload payload',
      client.Asks op payload' (client.request op token payload) ↔ payload' = payload) ∧
    (∀ f : KmsOperation → Bytes → Bytes, client.Serves net f →
      (∀ payload, f .decrypt (f .encrypt payload) = payload) → ∀ payload s s',
        ((client.protector net).encrypt payload s).1 = .ok (f .encrypt payload) ∧
        ((client.protector net).decrypt (f .encrypt payload) s').1 = .ok payload) ∧
    ∀ (op : KmsOperation) (payload : Bytes) (s : σ),
      let outcome := (op.run (client.protector net) payload s).1
      let Failed := ∃ detail, outcome = .error (.backend client.backend.name op.name detail)
      let Malformed := ∃ detail, outcome = .error (.malformedResponse detail)
      ((∀ reply s', ¬ client.Receives net op payload s reply s') → Failed) ∧
      ∀ reply s', client.Receives net op payload s reply s' →
        (Http.Status.isSuccess reply.status = false → Failed) ∧
        (Http.Status.isSuccess reply.status = true →
          (∀ bytes, outcome = .ok bytes ↔ client.Holds op reply.body (.blob bytes)) ∧
          (client.Holds op reply.body .null → Malformed) ∧
          (client.backend = .gcpKmsV1 → (∀ bytes, ¬ client.Holds op reply.body (.blob bytes)) →
            Malformed) ∧
          (client.backend = .awsKmsV1 → (∀ value, ¬ client.Holds op reply.body value) →
            Failed)) := by
  refine ⟨fun op token payload payload' => ⟨fun h => ?_, ?_⟩,
    fun f hserves hinverse payload s s' => ?_,
    fun op payload s => ⟨run_of_not_receives, fun reply s' hreceives => ?_⟩⟩
  · exact h.unique (asks_request client op token payload)
  · rintro rfl
    exact asks_request client op token payload'
  · refine ⟨run_of_serves hserves .encrypt payload s, ?_⟩
    have hdecrypted := run_of_serves hserves .decrypt (f .encrypt payload) s'
    rwa [hinverse] at hdecrypted
  · rw [run_of_receives hreceives]
    refine ⟨told_of_not_isSuccess client op, fun hsuccess => ?_⟩
    refine ⟨fun bytes => told_eq_ok_iff client op hsuccess,
      told_malformed_of_null client op hsuccess, fun hbackend hnone => ?_, fun hbackend hnone => ?_⟩
    · cases client with
      | aws c => cases hbackend
      | gcp c => exact Gcp.payload_malformed hsuccess hnone
    · cases client with
      | aws c =>
        rw [← op.name_aws]
        exact Aws.payload_of_unreadable hsuccess hnone
      | gcp c => cases hbackend

/-! ## A service that writes payloads backwards -/

/-- What a request asks for. -/
def asked (client : KmsClient) (r : Http.Request) : KmsOperation :=
  match client with
  | aws _ =>
    if r.header? "x-amz-target" = some "TrentService.Encrypt" then .encrypt else .decrypt
  | gcp c => if r.url = c.url Gcp.encryption then .encrypt else .decrypt

/-- The payload in a request. -/
def payload? (client : KmsClient) (r : Http.Request) : Option Bytes := do
  match ← Json.parse? r.body with
  | .object ms =>
    match Json.valuesAt ms (client.given (client.asked r)) with
    | [json] => Base64.standard.decode? (← json.text?)
    | _ => none
  | _ => none

/-- The service of a client that gives payloads back with their last byte first. -/
def backwards (client : KmsClient) : Http.Network Unit where
  token s := (.ok "token", s)
  send r s :=
    match client.payload? r with
    | none => (.ok { status := 400, body := "" }, s)
    | some payload =>
      let body := Json.obj [(client.result (client.asked r), .blob payload.reverse)]
      (.ok { status := 200, body := body.render }, s)

theorem Asks.payload?_eq {r : Http.Request} (hasked : client.asked r = op)
    (h : client.Asks op payload r) : client.payload? r = some payload := by
  obtain ⟨ms, hparse, hvalues⟩ := h.carries
  rw [payload?, hparse]
  show (match Json.valuesAt ms (client.given (client.asked r)) with
    | [json] => json.text?.bind Base64.standard.decode?
    | _ => none) = _
  rw [hasked, hvalues]
  exact Json.str_eq_blob_iff.1 rfl

theorem answers_backwards {r : Http.Request} {s : Unit} (hasked : client.asked r = op)
    (h : client.Asks op payload r) : ∃ response s', client.backwards.send r s = (.ok response, s') ∧
      Http.Status.isSuccess response.status = true ∧
      client.Holds op response.body (.blob payload.reverse) := by
  refine ⟨{ status := 200, body := (Json.obj [(client.result op, .blob payload.reverse)]).render },
    s, ?_, rfl, client.holds_render op payload.reverse⟩
  rw [backwards]
  dsimp only
  rw [h.payload?_eq hasked, hasked]

/-- A client for a key, of the JSON interface. -/
def sampleAws : KmsClient := .aws ⟨"key-1", none⟩

/-- A client for a key, of the REST interface. -/
def sampleGcpClient : Gcp.Client :=
  .make "projects/p/locations/l/keyRings/r/cryptoKeys/k" (some "https://kms.example.com/")

theorem serves_backwards_aws :
    sampleAws.Serves sampleAws.backwards fun _ => List.reverse where
  answers op payload r s h := by
    refine answers_backwards ?_ h
    -- The service tells the operations apart by the header, which names them.
    have htarget : r.header? "x-amz-target" = some ("TrentService." ++ op.aws.action) :=
      h.addresses.2.1
    show (if r.header? "x-amz-target" = _ then KmsOperation.encrypt else .decrypt) = op
    rw [htarget]
    cases op <;> decide +kernel
  token h := nomatch h
  usable h := nomatch h

theorem serves_backwards_gcp :
    (gcp sampleGcpClient).Serves (gcp sampleGcpClient).backwards fun _ => List.reverse where
  answers op payload r s h := by
    refine answers_backwards ?_ h
    have hurl : r.url = s!"{sampleGcpClient.endpoint}/v1/{sampleGcpClient.keyName}:{op.name}" :=
      h.addresses
    show (if r.url = sampleGcpClient.url _ then KmsOperation.encrypt else .decrypt) = op
    rw [hurl]
    cases op <;> decide +kernel
  token _ s := ⟨"token", s, rfl⟩
  usable _ op token payload := by
    have hscheme : Http.Url.scheme? (sampleGcpClient.url op.gcp) = some "https" := by
      cases op <;> decide +kernel
    have hrequest : Http.Url.scheme? ((gcp sampleGcpClient).request op token payload).url =
        some "https" := hscheme
    rw [Http.Request.problem?, hrequest]
    rfl

/-- Both services give every payload back through their clients. -/
theorem payloads_carried_backwards :
    ∀ client ∈ [sampleAws, gcp sampleGcpClient], ∀ payload,
      ((client.protector client.backwards).encrypt payload ()).1 = .ok payload.reverse ∧
      ((client.protector client.backwards).decrypt payload.reverse ()).1 = .ok payload := by
  intro client hclient payload
  have hserves : client.Serves client.backwards fun _ => List.reverse := by
    rcases List.mem_pair.1 hclient with rfl | rfl
    · exact serves_backwards_aws
    · exact serves_backwards_gcp
  exact (payloads_carried client client.backwards).2.1 _ hserves List.reverse_reverse payload () ()

/-- A page that stands in for a service. -/
def maintenance : Http.Network Unit where
  token s := (.ok "token", s)
  send _ s := (.ok { status := 200, body := "<html>maintenance</html>" }, s)

/-- Not every successful reply without a payload is told as malformed. -/
theorem not_malformed_of_unreadable :
    ¬ ∀ (client : KmsClient) (net : Http.Network Unit) (op : KmsOperation) (payload : Bytes)
      (reply : Http.Reply), client.Receives net op payload () reply () →
        Http.Status.isSuccess reply.status = true →
        (∀ ms, Json.parse? reply.body = some (.object ms) →
          Json.valuesAt ms (client.result op) = []) →
        ∃ detail, (op.run (client.protector net) payload ()).1 =
          .error (.malformedResponse detail) := by
  intro h
  have hunread : Json.parse? "<html>maintenance</html>" = none := by decide +kernel
  have hreceives : sampleAws.Receives maintenance .encrypt [0, 0xff] ()
      ⟨200, "<html>maintenance</html>"⟩ () := ⟨_, rfl, rfl⟩
  obtain ⟨detail, hmalformed⟩ := h sampleAws maintenance .encrypt [0, 0xff] _ hreceives rfl
    fun ms hread => nomatch hunread.symm.trans hread
  rw [run_of_receives hreceives] at hmalformed
  -- A reply that is told as malformed can be read.
  have htold : Aws.payload Aws.encryption ⟨200, "<html>maintenance</html>"⟩ =
      .error (.malformedResponse detail) := hmalformed
  obtain ⟨ms, hread, -⟩ := (Aws.payload_malformed_iff rfl).1 ⟨detail, htold⟩
  rw [Aws.Members, if_neg (by decide), hunread] at hread
  cases hread

end KmsClient
end Gatehouse
