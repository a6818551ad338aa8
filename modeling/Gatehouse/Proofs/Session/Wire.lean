import Gatehouse.Proofs.Json.RoundTrip
import Gatehouse.Session.Claims
import Gatehouse.Session.Token.Header

/-!
# Written headers and claims are read back

The texts in claims are arbitrary, and the times have to fit 64 bits.
-/

namespace Gatehouse

namespace Json

/-! ## Objects with text keys -/

theorem areSoundMembers_map (ms : List (String × Json)) :
    areSoundMembers (ms.map fun m => (some m.1, m.2)) = ms.all (isSound ·.2) := by
  induction ms with
  | nil => rfl
  | cons m ms ih => rw [List.map_cons, areSoundMembers, ih, List.all_cons, Option.isSome_some,
      Bool.true_and]

theorem isSound_obj (ms : List (String × Json)) : isSound (obj ms) = ms.all (isSound ·.2) := by
  rw [obj, isSound, areSoundMembers_map]

@[simp] theorem isSound_str (s : String) : isSound (str s) = true := by
  rw [str, isSound, Option.isSome_some]

@[simp] theorem text?_str (s : String) : (str s).text? = some s := rfl

theorem int64?_int {n : Int} (h : Limit.isInt64 n = true) : (int n).int64? = some n := by
  simp [int, int64?, integer?, h]

theorem isSound_int {n : Int} (h : Limit.isInt64 n = true) : isSound (int n) = true := by
  -- A number of 64 bits is far from where numbers become infinite.
  have hlimit : Limit.bits63 < Numeral.overflow := by decide +kernel
  have hrange : -(Limit.bits63 : Int) ≤ n ∧ n < Limit.bits63 := by
    simpa [Limit.isInt64] using h
  have hfinite : n.natAbs < Numeral.overflow := by omega
  rw [int, isSound, Numeral.isFinite, decide_eq_true hfinite]

/-- The values of required fields in an object that holds exactly these fields. -/
theorem fields?_obj (fs : List Field) (ms : List (String × Json)) :
    fields? fs (obj ms) = fs.mapM (fieldOfMembers? (ms.map fun m => (some m.1, m.2))) := by
  rw [obj, fields?, if_pos]
  simp

end Json

/-! ## Parts of claims -/

theorem SessionClaim.ofJson?_toJson (c : SessionClaim) : ofJson? c.toJson = some c := by
  rw [ofJson?, toJson, Json.fields?_obj]
  rfl

theorem UserClaim.ofJson?_toJson (c : UserClaim) : ofJson? c.toJson = some c := by
  obtain ⟨id, email⟩ := c
  rw [ofJson?, toJson, Json.fields?_obj]
  cases email <;> rfl

theorem OrganizationClaim.ofJson?_toJson (c : OrganizationClaim) : ofJson? c.toJson = some c := by
  obtain ⟨id, displayName⟩ := c
  rw [ofJson?, toJson, Json.fields?_obj]
  cases displayName <;> rfl

theorem SessionClaim.isSound_toJson (c : SessionClaim) : c.toJson.isSound = true := rfl

theorem UserClaim.isSound_toJson (c : UserClaim) : c.toJson.isSound = true := by
  obtain ⟨id, email⟩ := c
  cases email <;> rfl

theorem OrganizationClaim.isSound_toJson (c : OrganizationClaim) : c.toJson.isSound = true := by
  obtain ⟨id, displayName⟩ := c
  cases displayName <;> rfl

/-! ## Claims and headers -/

/-- Whether the three times of claims fit 64 bits. -/
def SessionClaims.HasTimes (c : SessionClaims) : Prop :=
  Limit.isInt64 c.exp = true ∧ Limit.isInt64 c.nbf = true ∧ Limit.isInt64 c.iat = true

theorem SessionClaims.ofJson?_toJson {c : SessionClaims} (h : c.HasTimes) :
    ofJson? c.toJson = some c := by
  obtain ⟨hexp, hnbf, hiat⟩ := h
  have hfields : Json.fields? fields c.toJson = some [Json.str c.iss, Json.str c.sub,
      Json.str c.aud, Json.int c.exp, Json.int c.nbf, Json.int c.iat, c.session.toJson,
      c.user.toJson, c.organization.toJson] := by
    rw [toJson, Json.fields?_obj]
    rfl
  rw [ofJson?, hfields]
  simp [Json.int64?_int hexp, Json.int64?_int hnbf, Json.int64?_int hiat,
    SessionClaim.ofJson?_toJson, UserClaim.ofJson?_toJson, OrganizationClaim.ofJson?_toJson]

theorem SessionClaims.isSound_toJson {c : SessionClaims} (h : c.HasTimes) :
    c.toJson.isSound = true := by
  obtain ⟨hexp, hnbf, hiat⟩ := h
  rw [toJson, Json.isSound_obj]
  simp [Json.isSound_int hexp, Json.isSound_int hnbf, Json.isSound_int hiat,
    SessionClaim.isSound_toJson, UserClaim.isSound_toJson, OrganizationClaim.isSound_toJson]

/-- Claims are read back from the bytes of their text. -/
theorem SessionClaims.ofBytes?_encode_render {c : SessionClaims} (h : c.HasTimes) :
    Json.ofBytes? (Utf8.encode c.toJson.render) = some c.toJson :=
  Json.ofBytes?_encode_render (isSound_toJson h)

theorem TokenHeader.ofJson?_toJson (h : TokenHeader) : ofJson? h.toJson = some h := by
  obtain ⟨alg, kid⟩ := h
  rw [ofJson?, toJson, Json.fields?_obj]
  cases alg <;> cases kid <;> rfl

/-- A header is read back from the bytes of its text. -/
theorem TokenHeader.ofBytes?_encode_render (h : TokenHeader) :
    Json.ofBytes? (Utf8.encode h.toJson.render) = some h.toJson := by
  refine Json.ofBytes?_encode_render ?_
  obtain ⟨alg, kid⟩ := h
  cases kid <;> rfl

end Gatehouse
