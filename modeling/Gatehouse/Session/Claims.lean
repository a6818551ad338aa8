import Gatehouse.Json.Decode

/-!
# Claims of session tokens

All ids are external ids. The issuer and the audience are both the audience of the project whose
key signs the token, and the subject repeats the user's id.
-/

namespace Gatehouse

/-- The session that a token belongs to. -/
structure SessionClaim where
  id : String
deriving DecidableEq, Repr

/-- The user who is logged in. -/
structure UserClaim where
  id : String
  email : Option String
deriving DecidableEq, Repr

/-- The organization of the user. -/
structure OrganizationClaim where
  id : String
  displayName : Option String
deriving DecidableEq, Repr

/-- What a session token says. -/
structure SessionClaims where
  iss : String
  sub : String
  aud : String
  /-- The end of the token's life. -/
  exp : Int
  /-- Its beginning. -/
  nbf : Int
  /-- When it was issued. -/
  iat : Int
  session : SessionClaim
  user : UserClaim
  organization : OrganizationClaim
deriving DecidableEq, Repr

namespace SessionClaim

/-- A session as JSON. -/
def toJson (c : SessionClaim) : Json :=
  Json.obj [("id", Json.str c.id)]

/-- The session that a JSON value gives. -/
def ofJson? (j : Json) : Option SessionClaim := do
  match ← Json.fields? [.required "id"] j with
  | [id] => return ⟨← id.text?⟩
  | _ => none

end SessionClaim

namespace UserClaim

/-- A user as JSON. -/
def toJson (c : UserClaim) : Json :=
  Json.obj (("id", Json.str c.id) :: Json.present "email" c.email)

/-- The user that a JSON value gives. -/
def ofJson? (j : Json) : Option UserClaim := do
  match ← Json.fields? [.required "id", .defaulted "email"] j with
  | [id, email] => return ⟨← id.text?, ← email.option? Json.text?⟩
  | _ => none

end UserClaim

namespace OrganizationClaim

/-- An organization as JSON. -/
def toJson (c : OrganizationClaim) : Json :=
  Json.obj (("id", Json.str c.id) :: Json.present "displayName" c.displayName)

/-- The organization that a JSON value gives. -/
def ofJson? (j : Json) : Option OrganizationClaim := do
  match ← Json.fields? [.required "id", .defaulted "displayName"] j with
  | [id, displayName] => return ⟨← id.text?, ← displayName.option? Json.text?⟩
  | _ => none

end OrganizationClaim

namespace SessionClaims

/-- Claims as JSON. -/
def toJson (c : SessionClaims) : Json :=
  Json.obj [("iss", Json.str c.iss), ("sub", Json.str c.sub), ("aud", Json.str c.aud),
    ("exp", Json.int c.exp), ("nbf", Json.int c.nbf), ("iat", Json.int c.iat),
    ("session", c.session.toJson), ("user", c.user.toJson),
    ("organization", c.organization.toJson)]

/-- The fields of claims, in order. -/
def fields : List Json.Field :=
  ["iss", "sub", "aud", "exp", "nbf", "iat", "session", "user", "organization"].map .required

/-- The claims that a JSON value gives. -/
def ofJson? (j : Json) : Option SessionClaims := do
  match ← Json.fields? fields j with
  | [iss, sub, aud, exp, nbf, iat, session, user, organization] =>
    return {
      iss := ← iss.text?, sub := ← sub.text?, aud := ← aud.text?, exp := ← exp.int64?,
      nbf := ← nbf.int64?, iat := ← iat.int64?, session := ← SessionClaim.ofJson? session,
      user := ← UserClaim.ofJson? user, organization := ← OrganizationClaim.ofJson? organization }
  | _ => none

end SessionClaims
end Gatehouse
