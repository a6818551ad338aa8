import Gatehouse.Api.Error
import Gatehouse.Api.Wire
import Gatehouse.Proofs.Json.Codec

/-!
# What is sent is what is received

The records that go over the wire: claims, failures and the replies of the interface. Each is an
object with the members that are there, under the names that the other side knows them by, and its
text gives the record back, whatever the texts in it are. A member that is left out is read as
absent, and one that is empty as empty.
-/

namespace Gatehouse

open Json (str record Codec)

/-! ## The members of records -/

namespace UserClaim

/-- The members of a user. -/
def members (c : UserClaim) : List (String × Option Json) :=
  [("id", some (str c.id)), ("email", c.email.map str)]

theorem toJson_eq (c : UserClaim) : c.toJson = record c.members := by
  obtain ⟨id, email⟩ := c
  cases email <;> rfl

end UserClaim

namespace OrganizationClaim

/-- The members of an organization. -/
def members (c : OrganizationClaim) : List (String × Option Json) :=
  [("id", some (str c.id)), ("displayName", c.displayName.map str)]

theorem toJson_eq (c : OrganizationClaim) : c.toJson = record c.members := by
  obtain ⟨id, displayName⟩ := c
  cases displayName <;> rfl

end OrganizationClaim

namespace SessionClaims

/-- The members of claims. -/
def members (c : SessionClaims) : List (String × Option Json) :=
  [("iss", some (str c.iss)), ("sub", some (str c.sub)), ("aud", some (str c.aud)),
    ("exp", some (Json.int c.exp)), ("nbf", some (Json.int c.nbf)), ("iat", some (Json.int c.iat)),
    ("session", some (record [("id", some (str c.session.id))])),
    ("user", some (record c.user.members)), ("organization", some (record c.organization.members))]

theorem toJson_eq (c : SessionClaims) : c.toJson = record c.members := by
  rw [toJson, UserClaim.toJson_eq, OrganizationClaim.toJson_eq]
  rfl

theorem hasTimes_of_ofJson? {j : Json} {c : SessionClaims} (h : ofJson? j = some c) :
    c.HasTimes := by
  obtain ⟨fs, -, h⟩ := Option.bind_eq_some_iff.1 h
  split at h
  · -- Three texts come before the times, and three records after them.
    iterate 3 obtain ⟨_, -, h⟩ := Option.bind_eq_some_iff.1 h
    obtain ⟨exp, hexp, h⟩ := Option.bind_eq_some_iff.1 h
    obtain ⟨nbf, hnbf, h⟩ := Option.bind_eq_some_iff.1 h
    obtain ⟨iat, hiat, h⟩ := Option.bind_eq_some_iff.1 h
    iterate 3 obtain ⟨_, -, h⟩ := Option.bind_eq_some_iff.1 h
    obtain rfl := Option.some.inj h
    exact ⟨Codec.isInt64_of_int64? hexp, Codec.isInt64_of_int64? hnbf, Codec.isInt64_of_int64? hiat⟩
  · cases h

/-- Claims, whose times fit 64 bits. -/
def codec : Codec SessionClaims where
  write := toJson
  read? := ofJson?
  Fits := HasTimes
  read?_write := ofJson?_toJson
  isSound_write := isSound_toJson
  fits_of_read? := hasTimes_of_ofJson?

end SessionClaims

namespace ErrorBody

/-- The members of a body. -/
def members (b : ErrorBody) : List (String × Option Json) :=
  [("code", some (str b.code)), ("message", some (str b.message))]

/-- Bodies of failed replies. -/
def codec : Codec ErrorBody where
  write := toJson
  read? := ofJson?
  Fits _ := True
  read?_write _ := by
    rw [ofJson?, toJson, Json.fields?_obj]
    rfl
  isSound_write _ := rfl
  fits_of_read? _ := trivial

end ErrorBody

namespace ConsoleConfiguration

/-- The members of a configuration. -/
def members (c : ConsoleConfiguration) : List (String × Option Json) :=
  [("consoleProjectId", some (str c.consoleProjectId))]

/-- Configurations of the console. -/
def codec : Codec ConsoleConfiguration where
  write := toJson
  read? := ofJson?
  Fits _ := True
  read?_write _ := by
    rw [ofJson?, toJson, Json.fields?_obj]
    rfl
  isSound_write _ := rfl
  fits_of_read? _ := trivial

end ConsoleConfiguration

namespace CallerIdentity

/-- The members of a caller. -/
def members (c : CallerIdentity) : List (String × Option Json) :=
  [("projectId", some (str c.projectId)), ("backendApiKeyId", c.backendApiKeyId.map str),
    ("userId", c.userId.map str), ("sessionId", c.sessionId.map str),
    ("organizationId", c.organizationId.map str)]

theorem toJson_eq (c : CallerIdentity) : c.toJson = record c.members := by
  obtain ⟨projectId, apiKeyId, userId, sessionId, organizationId⟩ := c
  cases apiKeyId <;> cases userId <;> cases sessionId <;> cases organizationId <;> rfl

theorem ofJson?_toJson (c : CallerIdentity) : ofJson? c.toJson = some c := by
  have hfields : Json.fields? fields c.toJson = some (c.members.map fun m => m.2.getD .null) := by
    rw [toJson_eq]
    apply Json.fields?_record
    · simp [fields, members, Json.Field.Reads, Json.Field.required, Json.Field.defaulted]
    · simp [members]
  rw [ofJson?, hfields]
  simp [members, Json.option?_getD_map_str]

theorem isSound_toJson (c : CallerIdentity) : c.toJson.isSound = true := by
  rw [toJson_eq]
  apply Json.isSound_record
  simp [members]

/-- Callers. -/
def codec : Codec CallerIdentity where
  write := toJson
  read? := ofJson?
  Fits _ := True
  read?_write _ := ofJson?_toJson _
  isSound_write _ := isSound_toJson _
  fits_of_read? _ := trivial

end CallerIdentity

namespace ProjectView

/-- The members of a project. -/
def members (p : ProjectView) : List (String × Option Json) :=
  [("id", some (str p.id)), ("displayName", some (str p.displayName)),
    ("vaultDomain", some (str p.vaultDomain)), ("cookieDomain", some (str p.cookieDomain)),
    ("logoUrl", p.logoUrl.map str), ("darkModeLogoUrl", p.darkModeLogoUrl.map str),
    ("trustedDomains", some (.array (p.trustedDomains.map str))),
    ("createdAt", some (Json.int p.createdAt))]

theorem toJson_eq (p : ProjectView) : p.toJson = record p.members := by
  obtain ⟨_, _, _, _, logoUrl, darkModeLogoUrl, _, _⟩ := p
  cases logoUrl <;> cases darkModeLogoUrl <;> rfl

theorem ofJson?_toJson {p : ProjectView} (h : Limit.isInt64 p.createdAt = true) :
    ofJson? p.toJson = some p := by
  have hfields : Json.fields? fields p.toJson = some (p.members.map fun m => m.2.getD .null) := by
    rw [toJson_eq]
    apply Json.fields?_record
    · simp [fields, members, Json.Field.Reads, Json.Field.required, Json.Field.defaulted]
    · simp [members]
  have hdomains : (Json.array (p.trustedDomains.map str)).list? Json.text? =
      some p.trustedDomains := (Codec.list Codec.text).read?_write fun _ _ => trivial
  rw [ofJson?, hfields]
  simp [members, Json.option?_getD_map_str, Json.int64?_int h, hdomains]

theorem isSound_toJson {p : ProjectView} (h : Limit.isInt64 p.createdAt = true) :
    p.toJson.isSound = true := by
  have hdomains : (Json.array (p.trustedDomains.map str)).isSound = true :=
    (Codec.list Codec.text).isSound_write fun _ _ => trivial
  rw [toJson_eq]
  apply Json.isSound_record
  simp [members, Json.isSound_int h, hdomains]

theorem isInt64_of_ofJson? {j : Json} {p : ProjectView} (h : ofJson? j = some p) :
    Limit.isInt64 p.createdAt = true := by
  obtain ⟨fs, -, h⟩ := Option.bind_eq_some_iff.1 h
  split at h
  · -- The time is the last of eight members.
    iterate 7 obtain ⟨_, -, h⟩ := Option.bind_eq_some_iff.1 h
    obtain ⟨createdAt, hcreated, h⟩ := Option.bind_eq_some_iff.1 h
    obtain rfl := Option.some.inj h
    exact Codec.isInt64_of_int64? hcreated
  · cases h

end ProjectView

namespace GetProjectResponse

/-- The members of a reply. -/
def members (r : GetProjectResponse) : List (String × Option Json) :=
  [("project", some (record r.project.members))]

theorem toJson_eq (r : GetProjectResponse) : r.toJson = record r.members := by
  rw [toJson, ProjectView.toJson_eq]
  rfl

theorem ofJson?_toJson {r : GetProjectResponse} (h : Limit.isInt64 r.project.createdAt = true) :
    ofJson? r.toJson = some r := by
  have hfields : Json.fields? [.required "project"] r.toJson = some [r.project.toJson] := rfl
  rw [ofJson?, hfields]
  simp [ProjectView.ofJson?_toJson h]

theorem isInt64_of_ofJson? {j : Json} {r : GetProjectResponse} (h : ofJson? j = some r) :
    Limit.isInt64 r.project.createdAt = true := by
  obtain ⟨fs, -, h⟩ := Option.bind_eq_some_iff.1 h
  split at h
  · obtain ⟨project, hproject, h⟩ := Option.bind_eq_some_iff.1 h
    obtain rfl := Option.some.inj h
    exact ProjectView.isInt64_of_ofJson? hproject
  · cases h

/-- Replies with a project, whose time fits 64 bits. -/
def codec : Codec GetProjectResponse where
  write := toJson
  read? := ofJson?
  Fits r := Limit.isInt64 r.project.createdAt = true
  read?_write := ofJson?_toJson
  isSound_write h := by
    rw [toJson, Json.isSound_obj]
    simp [ProjectView.isSound_toJson h]
  fits_of_read? := isInt64_of_ofJson?

end GetProjectResponse

namespace Jwk

/-- The members of a key. -/
def members (k : Jwk) : List (String × Option Json) :=
  [("kty", some (str k.kty)), ("crv", some (str k.crv)), ("kid", some (str k.kid)),
    ("x", some (str k.x)), ("y", some (str k.y)), ("alg", some (str k.alg)),
    ("use", some (str k.keyUse))]

theorem toJson_eq (k : Jwk) : k.toJson = record k.members := rfl

/-- Public keys. -/
def codec : Codec Jwk where
  write := toJson
  read? := ofJson?
  Fits _ := True
  read?_write {k} _ := by
    have hfields : Json.fields? (["kty", "crv", "kid", "x", "y", "alg", "use"].map .required)
        k.toJson = some (k.members.map fun m => m.2.getD .null) := by
      rw [toJson_eq]
      apply Json.fields?_record
      · simp [members, Json.Field.Reads, Json.Field.required]
      · simp [members]
    rw [ofJson?, hfields]
    simp [members]
  isSound_write _ := by
    rw [toJson_eq]
    apply Json.isSound_record
    simp [members]
  fits_of_read? _ := trivial

end Jwk

namespace JwkSet

/-- The members of a set. -/
def members (s : JwkSet) : List (String × Option Json) :=
  [("keys", some (.array (s.keys.map fun k => record k.members)))]

/-- Sets of public keys. -/
def codec : Codec JwkSet where
  write := toJson
  read? := ofJson?
  Fits _ := True
  read?_write {s} _ := by
    have hfields : Json.fields? [.required "keys"] s.toJson =
        some [.array (s.keys.map Jwk.toJson)] := rfl
    have hkeys : (Json.array (s.keys.map Jwk.toJson)).list? Jwk.ofJson? = some s.keys :=
      (Codec.list Jwk.codec).read?_write fun _ _ => trivial
    rw [ofJson?, hfields]
    simp [hkeys]
  isSound_write {s} _ := by
    have hkeys : (Json.array (s.keys.map Jwk.toJson)).isSound = true :=
      (Codec.list Jwk.codec).isSound_write fun _ _ => trivial
    rw [toJson, Json.isSound_obj]
    simp [hkeys]
  fits_of_read? _ := trivial

end JwkSet

/-! ## The records together -/

/-- The records that go over the wire. -/
inductive WireType where
  | sessionClaims | errorBody | consoleConfiguration | callerIdentity | projectResponse | keySet
deriving DecidableEq, Repr

namespace WireType

/-- The values of a record. -/
def Value : WireType → Type
  | sessionClaims => SessionClaims
  | errorBody => ErrorBody
  | consoleConfiguration => ConsoleConfiguration
  | callerIdentity => CallerIdentity
  | projectResponse => GetProjectResponse
  | keySet => JwkSet

/-- How a record is written and read. -/
def codec : (t : WireType) → Codec t.Value
  | sessionClaims => SessionClaims.codec
  | errorBody => ErrorBody.codec
  | consoleConfiguration => ConsoleConfiguration.codec
  | callerIdentity => CallerIdentity.codec
  | projectResponse => GetProjectResponse.codec
  | keySet => JwkSet.codec

/-- The members of a record; one that is absent is not there. -/
def members : (t : WireType) → t.Value → List (String × Option Json)
  | sessionClaims => SessionClaims.members
  | errorBody => ErrorBody.members
  | consoleConfiguration => ConsoleConfiguration.members
  | callerIdentity => CallerIdentity.members
  | projectResponse => GetProjectResponse.members
  | keySet => JwkSet.members

/-- **What is sent is what is received.** The text of a record is that of an object with the members
that are there, under the names of the wire, and gives back the record, as long as its times fit 64
bits. So a text that gives a record at all, in whatever form, gives the same one as the text that
this record is sent as. -/
theorem parse?_write_render (t : WireType) :
    (∀ v, t.codec.write v = record (t.members v)) ∧
      (∀ v, t.codec.Fits v → t.codec.parse? (t.codec.write v).render = some v) ∧
      ∀ text v, t.codec.parse? text = some v →
        t.codec.parse? (t.codec.write v).render = some v := by
  refine ⟨fun v => ?_, fun v hfits => t.codec.parse?_render hfits, fun text v hv => ?_⟩
  · cases t with
    | sessionClaims => exact SessionClaims.toJson_eq v
    | errorBody => rfl
    | consoleConfiguration => rfl
    | callerIdentity => exact CallerIdentity.toJson_eq v
    | projectResponse => exact GetProjectResponse.toJson_eq v
    | keySet => rfl
  · exact t.codec.parse?_render (t.codec.fits_of_parse? hv)

/-- Claims with texts that have to be escaped, a member that is left out and one that is empty, and
times from the edges of their type. -/
def sampleClaims : SessionClaims where
  iss := "\"quoted\" \\ / \x01\x1f\x7f"
  sub := "\n\r\t\x08\x0c"
  aud := "𝄞"
  exp := Limit.bits63 - 1
  nbf := -Limit.bits63
  iat := 0
  session := ⟨""⟩
  user := ⟨"user", none⟩
  organization := ⟨"organization", some ""⟩

/-- The claims are read back; so is a failure that came with its members in another order, with a
character written as two surrogates and with a member that nobody knows. -/
theorem parse?_write_render_samples :
    SessionClaims.codec.parse? sampleClaims.toJson.render = some sampleClaims ∧
      ErrorBody.codec.parse?
          "\x7b\"message\": \"\", \"more\": [1e9], \"code\": \"\\ud834\\udd1e\"\x7d" =
        some ⟨"𝄞", ""⟩ ∧
      ErrorBody.codec.parse? (ErrorBody.toJson ⟨"𝄞", ""⟩).render = some ⟨"𝄞", ""⟩ := by
  have htext : ErrorBody.codec.parse?
      "\x7b\"message\": \"\", \"more\": [1e9], \"code\": \"\\ud834\\udd1e\"\x7d" =
        some ⟨"𝄞", ""⟩ := by
    decide +kernel
  have htimes : sampleClaims.HasTimes := ⟨by decide, by decide, by decide⟩
  exact ⟨(parse?_write_render .sessionClaims).2.1 sampleClaims htimes, htext,
    (parse?_write_render .errorBody).2.2 _ _ htext⟩

end WireType
end Gatehouse
