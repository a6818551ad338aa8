import Gatehouse.Command.Arguments
import Gatehouse.Command.Failure
import Gatehouse.Entropy
import Gatehouse.Kms.Client
import Gatehouse.Store.Open

/-!
# What programs run on

What a program finds where it runs, and the options that several programs share: the directory of
the store, and the key management service that protects signing keys.
-/

namespace Gatehouse

/-- What a program finds where it runs. The network has a state of its own. -/
structure Host (σ : Type) where
  cloud : CloudEnvironment := {}
  network : Http.Network σ
  /-- What stands in the way of a store in a directory. -/
  obstacle : String → Option Obstacle := fun _ => none
  /-- Why nothing can listen at an address of the usual form. -/
  listenProblem : String → Option String := fun _ => none
  /-- The stored form of a password. -/
  hashPassword : String → String
  entropy : Entropy
  /-- The time. -/
  now : Int

namespace Command

variable {σ : Type}

/-! ## The store -/

/-- The option for the directory of the store. -/
def directoryOption : Opt :=
  ⟨"data-dir", some "PORTIER_DATA_DIR", some "data", .path⟩

/-- Opens the store in a directory. -/
def openStore (host : Host σ) (context directory : String) : Call σ Failure Unit :=
  (Store.openIn directory (host.obstacle directory)).explain context StoreError.message

/-! ## Key management -/

/-- The option for one setting of key management; the variable is spelt like the option. -/
def kmsOption (setting : String) : Opt :=
  { name := "session-signing-keys-kms-" ++ setting
    source? := some ("PORTIER_SESSION_SIGNING_KEYS_KMS_" ++
      String.ofList (setting.toUpper.toList.map fun c => if c = '-' then '_' else c)) }

/-- The options for key management. -/
def kmsOptions : List Opt :=
  ["backend", "aws-kms-v1-key-id", "aws-kms-v1-base-endpoint", "gcp-kms-v1-key-name",
    "gcp-kms-v1-base-endpoint"].map kmsOption

/-- The settings of key management that a program is given. -/
def kmsSettings? (g : Given) : Option KmsConfig.Options := do
  let value? := fun setting => g.value? (kmsOption setting).name
  return {
    backend := ← value? "backend", awsKeyId := value? "aws-kms-v1-key-id",
    awsEndpoint := value? "aws-kms-v1-base-endpoint", gcpKeyName := value? "gcp-kms-v1-key-name",
    gcpEndpoint := value? "gcp-kms-v1-base-endpoint" }

variable [Wording]

/-- Makes the client for a key management service. -/
def connectKms (host : Host σ) (context : String) (config : KmsConfig) :
    Call σ Failure KmsClient := do
  let client ← (Call.ofExcept (KmsClient.connect host.cloud config)).explain context
    KmsError.message
  .emit client.builtEvent
  return client

/-- The signing keys that a client protects. -/
def signingKeys (host : Host σ) (client : KmsClient) : SigningKeys σ :=
  { protector := client.protector host.network }

end Command
end Gatehouse
