import Gatehouse.Kms.Error
import Gatehouse.Text.Quoted

/-!
# Choice of a key management service

The service is chosen by name, and its settings come from flat options. Only the options of the
chosen service are read, and an empty option counts as absent.
-/

namespace Gatehouse

/-- The key management services that are supported. -/
inductive KmsBackend where
  | awsKmsV1
  | gcpKmsV1
deriving DecidableEq, Repr

namespace KmsBackend

/-- The name of a service in options. -/
def name : KmsBackend → String
  | awsKmsV1 => "aws_kms_v1"
  | gcpKmsV1 => "gcp_kms_v1"

/-- How a service is shown to a developer. -/
def describe : KmsBackend → String
  | awsKmsV1 => "AwsKmsV1"
  | gcpKmsV1 => "GcpKmsV1"

/-- The service with a given name. -/
def parse (s : String) : Except KmsError KmsBackend :=
  if s = awsKmsV1.name then .ok awsKmsV1
  else if s = gcpKmsV1.name then .ok gcpKmsV1
  else .error (.configuration ("unsupported kms backend: " ++ Text.quoted s))

end KmsBackend

/-- The settings of a key management service. -/
inductive KmsConfig where
  /-- An asymmetric key, by id, resource name or alias. -/
  | aws (keyId : String) (endpoint : Option String)
  /-- A symmetric key, by full resource name. -/
  | gcp (keyName : String) (endpoint : Option String)
deriving DecidableEq, Repr

namespace KmsConfig

/-- The options that settings are made from. -/
structure Options where
  backend : String
  awsKeyId : Option String := none
  awsEndpoint : Option String := none
  gcpKeyName : Option String := none
  gcpEndpoint : Option String := none
deriving DecidableEq, Repr

/-- An option that is present and not empty. -/
def nonEmpty : Option String → Option String
  | some s => if s = "" then none else some s
  | none => none

/-- The settings that options give. -/
def ofOptions (o : Options) : Except KmsError KmsConfig := do
  match ← KmsBackend.parse o.backend with
  | .awsKmsV1 =>
    match nonEmpty o.awsKeyId with
    | some keyId => .ok (.aws keyId (nonEmpty o.awsEndpoint))
    | none => .error (.configuration "aws_kms_v1 requires a key id")
  | .gcpKmsV1 =>
    match nonEmpty o.gcpKeyName with
    | some keyName => .ok (.gcp keyName (nonEmpty o.gcpEndpoint))
    | none => .error (.configuration "gcp_kms_v1 requires a key name")

/-- The service that settings choose. -/
def backend : KmsConfig → KmsBackend
  | aws .. => .awsKmsV1
  | gcp .. => .gcpKmsV1

/-- The key that settings name. -/
def key : KmsConfig → String
  | aws keyId _ => keyId
  | gcp keyName _ => keyName

/-- The address that settings give in place of the service's own. -/
def endpoint : KmsConfig → Option String
  | aws _ endpoint => endpoint
  | gcp _ endpoint => endpoint

end KmsConfig
end Gatehouse
