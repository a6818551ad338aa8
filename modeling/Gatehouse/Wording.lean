import Gatehouse.Bytes

/-!
# Words of libraries

Some failures quote the library that they come from, and some events quote such failures. What a
library says depends on what it could not read. It is not worked out here: whatever quotes a library
takes the words as they are given. Most quotations stand behind words of the service itself, and then
they begin with what separates the two.
-/

namespace Gatehouse

/-- What libraries say about what they could not read. -/
class Wording where
  /-- Why some bytes are no private key. -/
  privateKey : Bytes → String
  /-- Why some bytes are no public key. -/
  publicKey : Bytes → String
  /-- Why a text does not stand for bytes. -/
  base64 : String → String
  /-- Why a text is not the record that it should be. -/
  json : String → String
  /-- What is the matter with a reply of AWS KMS, by its status and its body. -/
  awsReply : Nat → String → String
  /-- Why there is no reply of AWS KMS, by the causes that the network tells. -/
  awsSilence : List String → String
  /-- Why there are no credentials for AWS KMS. -/
  awsCredentials : String
  /-- Why there are no credentials for Cloud KMS. -/
  googleCredentials : String
  /-- Why a token has no header. -/
  tokenHeader : String → String
  /-- Why a token with a header is not one that a key has signed for an audience. -/
  signedToken : (audience : String) → (key : Bytes) → (token : String) → String

/-- Libraries that say nothing, so that all quotations are cut off where they would begin. The command
line is run with them, and so are samples. -/
instance Wording.silent : Wording where
  privateKey _ := ""
  publicKey _ := ""
  base64 _ := ""
  json _ := ""
  awsReply _ _ := ""
  awsSilence _ := ""
  awsCredentials := ""
  googleCredentials := ""
  tokenHeader _ := ""
  signedToken _ _ _ := ""

end Gatehouse
