import Gatehouse.Kms.Aws
import Gatehouse.Kms.Gcp
import Gatehouse.Log
import Gatehouse.Text.Record

/-!
# Clients of key management services

A client is made from settings and from what the process finds in its environment: a region and
credentials for the one service, credentials for the other.
-/

namespace Gatehouse

/-- A client of one of the services. -/
inductive KmsClient where
  | aws (client : Aws.Client)
  | gcp (client : Gcp.Client)
deriving DecidableEq, Repr

/-- What the environment of the process offers. -/
structure CloudEnvironment where
  hasAwsRegion : Bool := true
  hasAwsCredentials : Bool := true
  hasGoogleCredentials : Bool := true
deriving DecidableEq, Repr

namespace KmsClient

/-- The client for some settings. -/
def connect [Wording] (env : CloudEnvironment) : KmsConfig → Except KmsError KmsClient
  | .aws keyId endpoint =>
    if !env.hasAwsRegion then .error (.configuration "aws_kms_v1: no AWS region configured")
    else if !env.hasAwsCredentials then
      .error (.configuration ("aws_kms_v1: no AWS credentials found" ++ Wording.awsCredentials))
    else .ok (.aws ⟨keyId, endpoint⟩)
  | .gcp keyName endpoint =>
    if env.hasGoogleCredentials then .ok (.gcp (.make keyName endpoint))
    else .error (.configuration ("gcp_kms_v1" ++ Wording.googleCredentials))

/-- The service of a client. -/
def backend : KmsClient → KmsBackend
  | aws _ => .awsKmsV1
  | gcp _ => .gcpKmsV1

/-- What is logged when a client has been made. -/
def builtEvent : KmsClient → Log.Event
  | aws c => {
      level := .debug, target := "portier_kms::aws", message := "Built AWS KMS client",
      fields := [("key_id", .text c.keyId), ("endpoint", .quoted (c.endpoint.getD "default"))] }
  | gcp c => {
      level := .debug, target := "portier_kms::gcp", message := "Built Cloud KMS client",
      fields := [("key_name", .text c.keyName), ("endpoint", .text c.endpoint)] }

/-- How a client is shown to a developer, without its credentials. -/
def describe : KmsClient → String
  | aws c => "AwsKmsV1(" ++ Text.record "AwsKmsV1" [("key_id", Text.quoted c.keyId)] true ++ ")"
  | gcp c =>
    "GcpKmsV1(" ++ Text.record "GcpKmsV1"
      [("key_name", Text.quoted c.keyName), ("endpoint", Text.quoted c.endpoint)] true ++ ")"

/-- The key protector that a client makes of its service. -/
def protector [Wording] {σ : Type} (client : KmsClient) (net : Http.Network σ) : KeyProtector σ :=
  match client with
  | aws c => c.protector net
  | gcp c => c.protector net

end KmsClient
end Gatehouse
