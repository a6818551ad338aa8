import Gatehouse.Json.Printer
import Gatehouse.Limit
import Gatehouse.Session.Claims
import Gatehouse.Session.SigningKeys
import Gatehouse.Session.Token.Compact
import Gatehouse.Session.Token.Header
import Gatehouse.Text.Quoted

/-!
# Session tokens

A token is signed with the key of a project, which its header names, and its audience is derived
from the project's id, so that it verifies for that project alone. Verification asks, in this
order: that the header names the algorithm and an active key of the project, that the signature
covers the token and the claims name the audience, that the time is right, and that the ids in the
claims are external ids. Whatever fails, the caller learns only that the token is not acceptable.
At last the organization has to manage some project, which is the one the session acts on.
-/

namespace Gatehouse

/-- The rules for tokens. -/
structure TokenConfig where
  /-- The domain under which the audiences of projects live. -/
  audienceRootDomain : String := "portier.app"
  /-- The life of a token, in seconds. -/
  accessTokenTtl : Nat := 300
  /-- How far clocks may differ, in seconds. -/
  leeway : Nat := 0
deriving DecidableEq, Repr

namespace TokenConfig

/-- The audience of a project's tokens. -/
def audience (c : TokenConfig) (projectId : Uuid) : String :=
  let host := (IdFormat.project.format projectId).toList.map fun ch => if ch = '_' then '-' else ch
  String.ofList ("https://".toList ++ host ++ '.' :: c.audienceRootDomain.toList)

end TokenConfig

/-- Whom a token is issued to. -/
structure SessionSubject where
  /-- The project whose key signs. -/
  projectId : Uuid
  organizationId : Uuid
  userId : Uuid
  sessionId : Uuid
  userEmail : Option String := none
  organizationDisplayName : Option String := none
deriving DecidableEq, Repr

/-- A new token. -/
structure IssuedToken where
  accessToken : String
  expiresAt : Int
deriving DecidableEq, Repr

/-- Whom a token identifies. -/
structure SessionIdentity where
  userId : Uuid
  sessionId : Uuid
  organizationId : Uuid
  /-- The project that the organization manages, on which the session acts. -/
  projectId : Uuid
deriving DecidableEq, Repr

/-- Why a token is not acceptable. -/
inductive TokenRejection where
  /-- It has no readable header. -/
  | header (detail : String)
  /-- It is signed in another way. -/
  | algorithm (alg : TokenAlgorithm)
  /-- It names no key. -/
  | noKid
  /-- The name of its key is no key id. -/
  | malformedKid (kid : String)
  /-- Its key is not active in the project. -/
  | inactiveKid (kid : String)
  /-- The signature, the claims or the audience are wrong. -/
  | signatureOrClaims (detail : String)
  /-- Its life has ended. -/
  | expired (exp : Int)
  /-- Its life has not begun. -/
  | notYetValid (nbf : Int)
  /-- An id in the claims is no external id of its kind. -/
  | malformedClaim (format : IdFormat)
deriving DecidableEq, Repr

/-- What is logged about a rejection. -/
def TokenRejection.reason : TokenRejection → String
  | header detail => "header" ++ detail
  | algorithm alg => "algorithm " ++ alg.name
  | noKid => "no kid"
  | malformedKid kid => "malformed kid " ++ Text.quoted kid
  | inactiveKid kid => s!"kid {kid} is not an active key"
  | signatureOrClaims detail => "signature or claims" ++ detail
  | expired exp => s!"expired at {exp}"
  | notYetValid nbf => s!"not valid before {nbf}"
  | malformedClaim format => s!"malformed {format.label} claim"

namespace SessionToken

variable {σ : Type}

/-- The part of the service that emits the events below. -/
def logTarget : String := "portier_session::token"

/-- A duration that fits the clock. -/
def clockSeconds (seconds : Nat) : Except SessionError Int :=
  if seconds < Limit.bits63 then .ok seconds
  else .error (.invalidInput s!"duration {seconds}s too large")

/-! ## Issuing -/

/-- The claims of a token. The clock is far from its end: the duration is checked, its sum with the
clock is not. -/
def claimsOf (c : TokenConfig) (subject : SessionSubject) (ttl now : Int) : SessionClaims :=
  let audience := c.audience subject.projectId
  let userId := IdFormat.user.format subject.userId
  { iss := audience, sub := userId, aud := audience, exp := now + ttl, nbf := now, iat := now,
    session := ⟨IdFormat.session.format subject.sessionId⟩,
    user := ⟨userId, subject.userEmail⟩,
    organization :=
      ⟨IdFormat.organization.format subject.organizationId, subject.organizationDisplayName⟩ }

/-- The base64 text of a JSON value. -/
def encodePart (j : Json) : String :=
  Base64.urlSafe.encode (Utf8.encode j.render)

/-- A signed token. -/
def sign (key : PrivateKey) (seed : Bytes) (header : TokenHeader) (claims : SessionClaims) :
    CompactToken :=
  let unsigned : CompactToken := ⟨encodePart header.toJson, encodePart claims.toJson, ""⟩
  { unsigned with signature := Base64.urlSafe.encode (Ecdsa.sign key seed unsigned.message) }

/-- Issues a token, signed with the first active key of the subject's project. The random bytes
`seed` go into the signature. -/
def issue [Wording] (keys : SigningKeys σ) (c : TokenConfig) (seed : Bytes)
    (subject : SessionSubject) (now : Int) : Call σ SessionError IssuedToken := do
  let ttl ← Call.ofExcept (clockSeconds c.accessTokenTtl)
  let claims := claimsOf c subject ttl now
  let (keyId, pair) ← keys.signingKey subject.projectId now
  let kid := IdFormat.signingKey.format keyId
  .emit { level := .debug, target := logTarget, message := "Issued session token",
          fields := [("project_id", .text (IdFormat.project.format subject.projectId)),
                     ("session_id", .text claims.session.id), ("kid", .quoted kid),
                     ("expires_at", .number claims.exp)] }
  return ⟨(sign pair seed ⟨.es256, some kid⟩ claims).render, claims.exp⟩

/-! ## Verifying -/

section Verifying

variable [Wording]

/-- The header of a token. -/
def headerOf (token : String) : Except TokenRejection TokenHeader :=
  match (CompactToken.parse? token).bind fun t =>
      (CompactToken.partJson? t.header).bind TokenHeader.ofJson? with
  | some header => .ok header
  | none => .error (.header (Wording.tokenHeader token))

/-- The name of the key that a token says it is signed with, and the id that it writes. -/
def keyOf (token : String) : Except TokenRejection (String × Uuid) := do
  let header ← headerOf token
  if header.alg ≠ .es256 then throw (.algorithm header.alg)
  match header.kid with
  | none => throw .noKid
  | some kid =>
    match IdFormat.signingKey.parse kid with
    | .ok id => return (kid, id)
    | .error _ => throw (.malformedKid kid)

/-- The claims in a part of a token; they have to be an object and to end after the beginning of
time. -/
def claimsOfPart? (part : String) : Option SessionClaims := do
  let json ← CompactToken.partJson? part
  match json with
  | .object _ =>
    let claims ← SessionClaims.ofJson? json
    if 0 ≤ claims.exp then some claims else none
  | _ => none

/-- The claims of a token that is signed by a key for an audience. -/
def signedClaims (audience : String) (key : PublicKey) (token : String) :
    Except TokenRejection SessionClaims :=
  let rejection := .signatureOrClaims
    (Wording.signedToken audience key.toSubjectPublicKeyInfo token)
  match CompactToken.parse? token with
  | none => .error rejection
  | some t =>
    match Base64.urlSafe.decode? t.signature, claimsOfPart? t.payload with
    | some signature, some claims =>
      if Ecdsa.verify key t.message signature ∧ claims.aud = audience then .ok claims
      else .error rejection
    | _, _ => .error rejection

/-- Refuses claims outside their time. -/
def checkTimes (claims : SessionClaims) (leeway now : Int) : Except TokenRejection Unit :=
  if claims.exp ≤ now - leeway then .error (.expired claims.exp)
  else if now + leeway < claims.nbf then .error (.notYetValid claims.nbf)
  else .ok ()

/-- The identifier in a claim. -/
def claimId (format : IdFormat) (value : String) : Except TokenRejection Uuid :=
  match format.parse value with
  | .ok id => .ok id
  | .error _ => .error (.malformedClaim format)

/-- The ids of user, session and organization in claims. -/
def claimIds (claims : SessionClaims) : Except TokenRejection (Uuid × Uuid × Uuid) := do
  let userId ← claimId .user claims.user.id
  let sessionId ← claimId .session claims.session.id
  let organizationId ← claimId .organization claims.organization.id
  return (userId, sessionId, organizationId)

/-- Goes on with what an examination of a token finds; a rejection is logged and not told. -/
def orReject {α : Type} (projectId : Uuid) : Except TokenRejection α → Call σ SessionError α
  | .ok a => return a
  | .error rejection => do
    .emit { level := .debug, target := logTarget, message := "Rejected session token",
            fields := [("project_id", .text (IdFormat.project.format projectId)),
                       ("reason", .text rejection.reason)] }
    .fail .authenticationFailed

/-- The project that an organization of some claims manages. -/
def projectOf (claims : SessionClaims) (organizationId : Uuid) : Call σ SessionError Uuid := do
  match ← (Store.backedProject organizationId).attempt with
  | .ok id => return id
  | .error (.notFound _) => do
    .emit { level := .error, target := logTarget,
            message := "Session organization backs no project",
            fields := [("organization_id", .text claims.organization.id)] }
    .fail (.integrity s!"organization {claims.organization.id} backs no project")
  | .error e => .fail (.storage e)

/-- Verifies a token as one that a project's key has signed. -/
def verify (c : TokenConfig) (projectId : Uuid) (token : String) (now : Int) :
    Call σ SessionError SessionIdentity := do
  let (kid, keyId) ← orReject projectId (keyOf token)
  let keys ← SigningKeys.activePublicKeys projectId now
  let key ← orReject projectId
    (match keys.find? (·.id == keyId) with
      | some key => .ok key
      | none => .error (.inactiveKid kid))
  let claims ← orReject projectId (signedClaims (c.audience projectId) key.publicKey token)
  let leeway ← Call.ofExcept (clockSeconds c.leeway)
  orReject projectId (checkTimes claims leeway now)
  let (userId, sessionId, organizationId) ← orReject projectId (claimIds claims)
  return ⟨userId, sessionId, organizationId, ← projectOf claims organizationId⟩

end Verifying

end SessionToken
end Gatehouse
