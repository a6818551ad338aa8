import Gatehouse.Bytes.Base64
import Gatehouse.Http.Redirect
import Gatehouse.Http.Status
import Gatehouse.Http.Url
import Gatehouse.Json.Decode
import Gatehouse.Json.Printer
import Gatehouse.Json.Reader
import Gatehouse.Kms.Config
import Gatehouse.Kms.Protector
import Gatehouse.Limit
import Gatehouse.Text.Blank
import Gatehouse.Wording

/-!
# Google Cloud KMS

A client of the service's REST interface, for one symmetric key. Each call makes one request, with
an access token and the payload in base64, goes where it is referred to, and reads the payload of a
successful reply from its one field.
-/

namespace Gatehouse.Gcp

/-- The address of the service. -/
def defaultEndpoint : String := "https://cloudkms.googleapis.com"

/-- A client for one key. -/
structure Client where
  keyName : String
  /-- The address of the service, without slashes at its end. -/
  endpoint : String
deriving DecidableEq, Repr

/-- An operation of the service: its name, the field of the payload in a request, and the field of
the payload in a reply. -/
structure Operation where
  name : String
  given : String
  result : String
deriving DecidableEq, Repr

/-- Encryption. -/
def encryption : Operation := ⟨"encrypt", "plaintext", "ciphertext"⟩

/-- Decryption. -/
def decryption : Operation := ⟨"decrypt", "ciphertext", "plaintext"⟩

/-- A text without slashes at its end. -/
def trimSlashes (s : String) : String :=
  String.ofList (s.toList.reverse.dropWhile (· == '/')).reverse

namespace Client

/-- The client for a key at an address. -/
def make (keyName : String) (endpoint : Option String) : Client :=
  ⟨keyName, trimSlashes (endpoint.getD defaultEndpoint)⟩

/-- The address that an operation is requested at. -/
def url (c : Client) (op : Operation) : String :=
  s!"{c.endpoint}/v1/{c.keyName}:{op.name}"

/-- The request of an operation on a payload. -/
def request (c : Client) (op : Operation) (token : String) (payload : Bytes) : Http.Request where
  method := "POST"
  url := c.url op
  path := Http.Url.target (c.url op)
  headers := [("authorization", "Bearer " ++ token), ("content-type", "application/json")]
  body := (Json.obj [(op.given, Json.str (Base64.standard.encode payload))]).render

end Client

/-- The failure of an operation. -/
def failure (op : Operation) (detail : String) : KmsError :=
  .backend KmsBackend.gcpKmsV1.name op.name detail

/-- The payload field of a successful reply; the reply is a record with this field alone, which may
be absent. -/
def payloadField? (op : Operation) (body : String) : Option (Option String) := do
  let fields ← Json.fields? [.optional op.result] (← Json.parse? body)
  match fields with
  | [field] => field.option? Json.text?
  | _ => none

/-- The payload of a reply. -/
def payload [Wording] (op : Operation) (reply : Http.Reply) : Except KmsError Bytes :=
  if Http.Status.isSuccess reply.status then
    match payloadField? op reply.body with
    | none => .error (.malformedResponse "error decoding response body")
    | some none => .error (.malformedResponse s!"{op.name} response has no {op.result}")
    | some (some text) =>
      match Base64.standard.decode? text with
      | some bytes => .ok bytes
      | none => .error (.malformedResponse (op.result ++ Wording.base64 text))
  else
    .error (failure op s!"HTTP {Http.Status.text reply.status}: {Text.trim reply.body}")

variable [Wording] {σ : Type}

/-- An operation on a payload. -/
def call (c : Client) (net : Http.Network σ) (op : Operation) (bytes : Bytes) (s : σ) :
    Except KmsError Bytes × σ :=
  match net.token s with
  | (.error e, s) => (.error (failure op ("token: " ++ e)), s)
  | (.ok token, s) =>
    match net.follow Http.maxRedirects (c.request op token bytes) s with
    | (.error e, s) => (.error (failure op e.message), s)
    | (.ok response, s) => (payload op response.toReply, s)

/-- The key protector that the service is, seen through a client. -/
def Client.protector (c : Client) (net : Http.Network σ) : KeyProtector σ where
  encrypt := call c net encryption
  decrypt := call c net decryption

/-! ## Access tokens -/

/-- The token in the reply of a token endpoint, which has to tell its lifetime too. -/
def tokenOfReply? (body : String) : Option String := do
  let fields ← Json.fields? [.required "access_token", .required "expires_in"] (← Json.parse? body)
  match fields with
  | [token, lifetime] =>
    let seconds ← lifetime.integer?
    if 0 ≤ seconds ∧ seconds < Limit.bits64 then token.text? else none
  | _ => none

end Gatehouse.Gcp
