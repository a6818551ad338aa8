import Gatehouse.Auth.Identity
import Gatehouse.Session.SigningKeys

/-!
# Replies of the interface

The records that successful replies carry, as JSON and back. Absent members are left out.
-/

namespace Gatehouse

/-- The public configuration of the console. -/
structure ConsoleConfiguration where
  /-- The external id of the console project. -/
  consoleProjectId : String
deriving DecidableEq, Repr

/-- Who a caller is. All ids are external. -/
structure CallerIdentity where
  projectId : String
  backendApiKeyId : Option String := none
  userId : Option String := none
  sessionId : Option String := none
  organizationId : Option String := none
deriving DecidableEq, Repr

/-- A project as its own callers see it. -/
structure ProjectView where
  /-- The external id. -/
  id : String
  displayName : String
  vaultDomain : String
  cookieDomain : String
  logoUrl : Option String
  darkModeLogoUrl : Option String
  trustedDomains : List String
  createdAt : Int
deriving DecidableEq, Repr

/-- The project of a caller. -/
structure GetProjectResponse where
  project : ProjectView
deriving DecidableEq, Repr

/-- The public keys of a project. -/
structure JwkSet where
  /-- The active keys, latest expiry first. -/
  keys : List Jwk
deriving DecidableEq, Repr

namespace ConsoleConfiguration

/-- A configuration as JSON. -/
def toJson (c : ConsoleConfiguration) : Json :=
  Json.obj [("consoleProjectId", Json.str c.consoleProjectId)]

/-- The configuration that a JSON value gives. -/
def ofJson? (j : Json) : Option ConsoleConfiguration := do
  match ← Json.fields? [.required "consoleProjectId"] j with
  | [id] => return ⟨← id.text?⟩
  | _ => none

end ConsoleConfiguration

namespace CallerIdentity

/-- A caller as JSON. -/
def toJson (c : CallerIdentity) : Json :=
  Json.obj ([("projectId", Json.str c.projectId)] ++
    Json.present "backendApiKeyId" c.backendApiKeyId ++ Json.present "userId" c.userId ++
    Json.present "sessionId" c.sessionId ++ Json.present "organizationId" c.organizationId)

/-- The fields of a caller, in order. -/
def fields : List Json.Field :=
  .required "projectId" ::
    ["backendApiKeyId", "userId", "sessionId", "organizationId"].map .defaulted

/-- The caller that a JSON value gives. -/
def ofJson? (j : Json) : Option CallerIdentity := do
  match ← Json.fields? fields j with
  | [projectId, apiKeyId, userId, sessionId, organizationId] =>
    return ⟨← projectId.text?, ← apiKeyId.option? Json.text?, ← userId.option? Json.text?,
      ← sessionId.option? Json.text?, ← organizationId.option? Json.text?⟩
  | _ => none

/-- Who an identity is. -/
def ofIdentity (i : Identity) : CallerIdentity :=
  match i with
  | .apiKey key => {
      projectId := IdFormat.project.format i.projectId
      backendApiKeyId := some (IdFormat.apiKey.format key.apiKeyId) }
  | .consoleSession session => {
      projectId := IdFormat.project.format i.projectId
      userId := some (IdFormat.user.format session.userId)
      sessionId := i.session
      organizationId := some (IdFormat.organization.format session.organizationId) }

end CallerIdentity

namespace ProjectView

/-- A project as JSON. -/
def toJson (p : ProjectView) : Json :=
  Json.obj ([("id", Json.str p.id), ("displayName", Json.str p.displayName),
    ("vaultDomain", Json.str p.vaultDomain), ("cookieDomain", Json.str p.cookieDomain)] ++
    Json.present "logoUrl" p.logoUrl ++ Json.present "darkModeLogoUrl" p.darkModeLogoUrl ++
    [("trustedDomains", .array (p.trustedDomains.map Json.str)),
      ("createdAt", Json.int p.createdAt)])

/-- The fields of a project, in order. -/
def fields : List Json.Field :=
  ["id", "displayName", "vaultDomain", "cookieDomain"].map .required ++
    ["logoUrl", "darkModeLogoUrl"].map .defaulted ++ ["trustedDomains", "createdAt"].map .required

/-- The project that a JSON value gives. -/
def ofJson? (j : Json) : Option ProjectView := do
  match ← Json.fields? fields j with
  | [id, displayName, vaultDomain, cookieDomain, logoUrl, darkModeLogoUrl, domains, createdAt] =>
    return ⟨← id.text?, ← displayName.text?, ← vaultDomain.text?, ← cookieDomain.text?,
      ← logoUrl.option? Json.text?, ← darkModeLogoUrl.option? Json.text?,
      ← domains.list? Json.text?, ← createdAt.int64?⟩
  | _ => none

/-- How a project is shown to its callers. -/
def ofProject (p : Project) : ProjectView :=
  { id := IdFormat.project.format p.id, displayName := p.displayName, vaultDomain := p.vaultDomain,
    cookieDomain := p.cookieDomain, logoUrl := p.logoUrl, darkModeLogoUrl := p.darkModeLogoUrl,
    trustedDomains := p.trustedDomains, createdAt := p.createdAt }

end ProjectView

namespace GetProjectResponse

/-- A reply as JSON. -/
def toJson (r : GetProjectResponse) : Json :=
  Json.obj [("project", r.project.toJson)]

/-- The reply that a JSON value gives. -/
def ofJson? (j : Json) : Option GetProjectResponse := do
  match ← Json.fields? [.required "project"] j with
  | [project] => return ⟨← ProjectView.ofJson? project⟩
  | _ => none

end GetProjectResponse

namespace JwkSet

/-- A set as JSON. -/
def toJson (s : JwkSet) : Json :=
  Json.obj [("keys", .array (s.keys.map Jwk.toJson))]

/-- The set that a JSON value gives. -/
def ofJson? (j : Json) : Option JwkSet := do
  match ← Json.fields? [.required "keys"] j with
  | [keys] => return ⟨← keys.list? Jwk.ofJson?⟩
  | _ => none

end JwkSet
end Gatehouse
