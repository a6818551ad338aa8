import Gatehouse.Bytes.Base64
import Gatehouse.Http.Client
import Gatehouse.Http.Status
import Gatehouse.Json.Decode
import Gatehouse.Json.Printer
import Gatehouse.Json.Reader
import Gatehouse.Kms.Config
import Gatehouse.Kms.Protector
import Gatehouse.Wording

/-!
# AWS KMS

A client of the service's JSON interface, for one asymmetric key. A request that fails for a
transient reason is made again, up to three times in all. A reply that refers elsewhere is a failed
one.
-/

namespace Gatehouse.Aws

/-- The address of the service. -/
def defaultEndpoint : String := "https://kms.amazonaws.com"

/-- A client for one key. -/
structure Client where
  keyId : String
  /-- The address of the service, if it is not the usual one. -/
  endpoint : Option String
deriving DecidableEq, Repr

/-- An operation of the service: its name and the name of its outcome in failures, its name in
requests, the field of the payload in a request, the field of the payload in a reply, and further
fields of a reply that hold text, or bytes. -/
structure Operation where
  name : String
  outcome : String
  action : String
  given : String
  result : String
  texts : List String := ["KeyId", "EncryptionAlgorithm"]
  blobs : List String := []
deriving DecidableEq, Repr

/-- Encryption. -/
def encryption : Operation :=
  { name := "encrypt", outcome := "ciphertext", action := "Encrypt", given := "Plaintext"
    result := "CiphertextBlob" }

/-- Decryption. -/
def decryption : Operation :=
  { name := "decrypt", outcome := "plaintext", action := "Decrypt", given := "CiphertextBlob"
    result := "Plaintext", blobs := ["CiphertextForRecipient"] }

/-- The padding scheme. -/
def algorithm : String := "RSAES_OAEP_SHA_256"

/-- The path of an address, without its last slash and with one added. -/
def endpointPath (endpoint : String) : String :=
  let rest := ((endpoint.toList.dropWhile (· != ':')).drop 3).dropWhile (· != '/')
  let path := if rest.getLast? = some '/' then rest.dropLast else rest
  String.ofList (path ++ ['/'])

namespace Client

/-- The request of an operation on a payload. -/
def request (c : Client) (op : Operation) (payload : Bytes) : Http.Request where
  method := "POST"
  url := c.endpoint.getD defaultEndpoint
  path := (c.endpoint.map endpointPath).getD "/"
  headers := [("content-type", "application/x-amz-json-1.1"),
    ("x-amz-target", "TrentService." ++ op.action)]
  body := (Json.obj [("KeyId", Json.str c.keyId),
    (op.given, Json.str (Base64.standard.encode payload)),
    ("EncryptionAlgorithm", Json.str algorithm)]).render

end Client

/-- The failure of an operation. -/
def failure (op : Operation) (detail : String) : KmsError :=
  .backend KmsBackend.awsKmsV1.name op.name detail

/-- The text in a value, which may be `null`. -/
def textOrNull? : Json → Option (Option String)
  | .null => some none
  | json => json.text?.map some

/-- The bytes in a value, which may be `null`. -/
def blobOrNull? (json : Json) : Option (Option Bytes) := do
  match ← textOrNull? json with
  | none => return none
  | some text => return some (← Base64.standard.decode? text)

/-- The payload of the body of a successful reply, which may be absent. An empty body counts as an
empty record; of a field that comes twice the last one counts, but each has to be readable. -/
def payloadField? (op : Operation) (body : String) : Option (Option Bytes) := do
  let json ← if body = "" then some (Json.obj []) else Json.parse? body
  match json with
  | .object ms =>
    let blobsAt := fun key => (Json.valuesAt ms key).mapM blobOrNull?
    let payloads ← blobsAt op.result
    if (op.texts.all fun key => (Json.valuesAt ms key).all fun json => (textOrNull? json).isSome) &&
        (op.blobs.all fun key => (blobsAt key).isSome) && ms.all (·.1.isSome) then
      return payloads.getLast?.join
    else none
  | _ => none

/-- The payload of a reply. -/
def payload [Wording] (op : Operation) (reply : Http.Reply) : Except KmsError Bytes :=
  if Http.Status.isSuccess reply.status then
    match payloadField? op reply.body with
    | none => .error (failure op (Wording.awsReply reply.status reply.body))
    | some none => .error (.malformedResponse s!"{op.name} response has no {op.outcome}")
    | some (some bytes) => .ok bytes
  else .error (failure op (Wording.awsReply reply.status reply.body))

/-! ## Repeated requests -/

/-- Error codes that say that the service is asked too often or too slowly. -/
def transientCodes : List String := [
  "Throttling", "ThrottlingException", "ThrottledException", "RequestThrottledException",
  "TooManyRequestsException", "ProvisionedThroughputExceededException",
  "TransactionInProgressException", "RequestLimitExceeded", "BandwidthLimitExceeded",
  "LimitExceededException", "RequestThrottled", "SlowDown", "PriorRequestNotComplete",
  "EC2ThrottledException", "RequestTimeout", "RequestTimeoutException"]

/-- An error code without the namespace before it and the address after it. -/
def bareCode (code : String) : String :=
  let code := code.toList.takeWhile (· != ':')
  match code.dropWhile (· != '#') with
  | _ :: bare => String.ofList bare
  | [] => String.ofList code

/-- The error code in the body of a failed reply. -/
def errorCode? (body : String) : Option String := do
  match ← Json.parse? body with
  | .object ms =>
    let textAt? := fun key => ((Json.valuesAt ms key).filterMap Json.text?).getLast?
    bareCode <$> (textAt? "code" <|> textAt? "__type")
  | _ => none

/-- Whether a reply calls for another attempt. -/
def isTransient (reply : Http.Reply) : Bool :=
  !Http.Status.isSuccess reply.status &&
    ([500, 502, 503, 504].contains reply.status ||
      (errorCode? reply.body).any transientCodes.contains)

variable {σ : Type}

/-- The response to a request that is made at most once more than `again` times. -/
def sendAgain (net : Http.Network σ) (request : Http.Request) :
    (again : Nat) → σ → Except Http.Unanswered Http.Response × σ
  | 0, s => net.send request s
  | again + 1, s =>
    match net.send request s with
    | (.error _, s) => sendAgain net request again s
    | (.ok response, s) =>
      if isTransient response.toReply then sendAgain net request again s else (.ok response, s)

variable [Wording]

/-- An operation on a payload. -/
def call (c : Client) (net : Http.Network σ) (op : Operation) (bytes : Bytes) (s : σ) :
    Except KmsError Bytes × σ :=
  match sendAgain net (c.request op bytes) 2 s with
  | (.error e, s) => (.error (failure op (Wording.awsSilence e)), s)
  | (.ok response, s) => (payload op response.toReply, s)

/-- The key protector that the service is, seen through a client. -/
def Client.protector (c : Client) (net : Http.Network σ) : KeyProtector σ where
  encrypt := call c net encryption
  decrypt := call c net decryption

end Gatehouse.Aws
