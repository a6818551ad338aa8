import Gatehouse.Kms.Client
import Gatehouse.Proofs.Base64
import Gatehouse.Proofs.Session.Wire
import Gatehouse.Proofs.Traversal

/-!
# What the replies of key management services say

A reply with a payload is a record that holds it in base64 in one field. The one service's client
takes every other successful reply for a malformed one. The other service's client does so only with
a record that it can read and that has no payload; what it cannot read it takes for a failure of the
service.
-/

namespace Gatehouse

/-! ## Base64 in JSON -/

namespace Json

/-- Bytes as JSON: a text in base64. -/
def blob (bytes : Bytes) : Json := str (Base64.standard.encode bytes)

theorem str_injective : Function.Injective str := by
  intro s t h
  exact Option.some.inj (congrArg text? h)

theorem str_eq_blob_iff {s : String} {bytes : Bytes} :
    str s = blob bytes ↔ Base64.standard.decode? s = some bytes := by
  rw [Base64.Dialect.decode?_eq_some_iff Base64.standard_lawful]
  exact str_injective.eq_iff

theorem blob_injective : Function.Injective blob := by
  intro a b h
  have hread : ∀ bytes, Base64.standard.decode? (Base64.standard.encode bytes) = some bytes :=
    fun bytes => str_eq_blob_iff.1 rfl
  rw [← Option.some.injEq, ← hread a, ← hread b, str_injective h]

theorem null_ne_blob (bytes : Bytes) : Json.null ≠ blob bytes := nofun

end Json

/-! ## Replies of the REST interface -/

namespace Gcp

variable {op : Operation} {reply : Http.Reply}

/-- The body of a reply has a value in the field of an operation: it is a record of this field. An
object may leave the field out, which counts as `null`. -/
def Holds (op : Operation) (body : String) (value : Json) : Prop :=
  ∃ json, Json.parse? body = some json ∧ Json.fields? [.optional op.result] json = some [value]

/-- The field of a body has one value. -/
theorem Holds.unique {body : String} {value value' : Json} (h : Holds op body value)
    (h' : Holds op body value') : value = value' := by
  obtain ⟨json, hparse, hfields⟩ := h
  obtain ⟨json', hparse', hfields'⟩ := h'
  obtain rfl := Option.some.inj (hparse.symm.trans hparse')
  exact List.singleton_inj.1 (Option.some.inj (hfields.symm.trans hfields'))

theorem option?_text?_eq_some_some_iff {json : Json} {text : String} :
    json.option? Json.text? = some (some text) ↔ json = .str text := by
  cases json <;> simp [Json.option?, Json.text?, Json.str]

theorem payloadField?_eq_some_some_iff {body text : String} :
    payloadField? op body = some (some text) ↔ Holds op body (.str text) := by
  rw [payloadField?, Holds]
  cases Json.parse? body with
  | none => simp
  | some json =>
    simp only [Option.bind_eq_bind, Option.bind_some, Option.some.injEq, exists_eq_left']
    cases Json.fields? [.optional op.result] json with
    | none => simp
    | some fields =>
      rw [Option.bind_some, Option.some.injEq]
      match fields with
      | [] => simp
      | [field] =>
        rw [List.singleton_inj]
        exact option?_text?_eq_some_some_iff
      | _ :: _ :: _ => simp

variable [Wording]

theorem payload_of_not_isSuccess (h : Http.Status.isSuccess reply.status = false) :
    ∃ detail, payload op reply = .error (failure op detail) := by
  rw [payload, h]
  exact ⟨_, rfl⟩

/-- A successful reply gives some bytes exactly if its field is their base64. -/
theorem payload_eq_ok_iff (h : Http.Status.isSuccess reply.status = true) {bytes : Bytes} :
    payload op reply = .ok bytes ↔ Holds op reply.body (.blob bytes) := by
  rw [payload, if_pos h, Json.blob, ← payloadField?_eq_some_some_iff]
  rcases payloadField? op reply.body with - | - | text
  · simp
  · simp
  · dsimp only
    rw [Option.some.injEq, Option.some.injEq,
      ← Base64.Dialect.decode?_eq_some_iff Base64.standard_lawful]
    cases Base64.standard.decode? text <;> simp

/-- Whatever is missed in a successful reply, it is said of the reply and not of the service. -/
theorem payload_malformed (h : Http.Status.isSuccess reply.status = true)
    (hnone : ∀ bytes, ¬ Holds op reply.body (.blob bytes)) :
    ∃ detail, payload op reply = .error (.malformedResponse detail) := by
  have hcases : (∃ bytes, payload op reply = .ok bytes) ∨
      ∃ detail, payload op reply = .error (.malformedResponse detail) := by
    rw [payload, if_pos h]
    rcases payloadField? op reply.body with - | - | text
    · exact .inr ⟨_, rfl⟩
    · exact .inr ⟨_, rfl⟩
    · dsimp only
      cases Base64.standard.decode? text with
      | none => exact .inr ⟨_, rfl⟩
      | some bytes => exact .inl ⟨bytes, rfl⟩
  -- No other kind of outcome is left, and bytes would be those in the field.
  refine hcases.resolve_left ?_
  rintro ⟨bytes, hok⟩
  exact hnone bytes ((payload_eq_ok_iff h).1 hok)

end Gcp

/-! ## Replies of the JSON interface -/

namespace Aws

variable {op : Operation} {reply : Http.Reply}

/-- The members of the body of a reply. An empty body has none. -/
def Members (body : String) (ms : List (Option String × Json)) : Prop :=
  if body = "" then ms = [] else Json.parse? body = some (.object ms)

/-- The members of a reply are such that it can be read: keys are text, and all that stands in the
fields of the operation is what belongs there, or `null`. -/
structure Readable (op : Operation) (ms : List (Option String × Json)) : Prop where
  keys : ∀ m ∈ ms, m.1.isSome = true
  texts : ∀ key ∈ op.texts, ∀ json ∈ Json.valuesAt ms key, ∃ text, json = Json.ofOption .str text
  blobs : ∀ key ∈ op.result :: op.blobs, ∀ json ∈ Json.valuesAt ms key,
    ∃ bytes, json = Json.ofOption .blob bytes

/-- The body of a reply is a record that can be read, with a value in the field of the payload. Of
several values the last one counts, and the absence of any counts as `null`. -/
def Holds (op : Operation) (body : String) (value : Json) : Prop :=
  ∃ ms, Members body ms ∧ Readable op ms ∧
    (Json.valuesAt ms op.result).getLast?.getD .null = value

theorem textOrNull?_eq_some_iff {json : Json} {text : Option String} :
    textOrNull? json = some text ↔ json = Json.ofOption .str text := by
  cases json <;> cases text <;> simp [textOrNull?, Json.ofOption, Json.text?, Json.str, eq_comm]

theorem blobOrNull?_eq_some_iff {json : Json} {bytes : Option Bytes} :
    blobOrNull? json = some bytes ↔ json = Json.ofOption .blob bytes := by
  rw [blobOrNull?]
  simp only [Option.bind_eq_bind, Option.bind_eq_some_iff, textOrNull?_eq_some_iff]
  constructor
  · rintro ⟨text, rfl, h⟩
    cases text with
    | none =>
      obtain rfl := Option.some.inj h
      rfl
    | some text =>
      obtain ⟨decoded, hdecode, h⟩ := Option.bind_eq_some_iff.1 h
      obtain rfl := Option.some.inj h
      exact Json.str_eq_blob_iff.2 hdecode
  · rintro rfl
    cases bytes with
    | none => exact ⟨none, rfl, rfl⟩
    | some bytes =>
      have hdecode := Json.str_eq_blob_iff.1 (Eq.refl (Json.blob bytes))
      exact ⟨some _, rfl, Option.bind_eq_some_iff.2 ⟨bytes, hdecode, rfl⟩⟩

theorem ofOption_blob_injective :
    Function.Injective (Json.ofOption Json.blob : Option Bytes → Json) := by
  intro a b h
  rw [← Option.some.injEq, ← blobOrNull?_eq_some_iff.2 h, blobOrNull?_eq_some_iff.2 rfl]

/-- The values under a key are readable as bytes exactly if each of them is. -/
theorem mapM_blobOrNull?_eq_some_iff {values : List Json} {payloads : List (Option Bytes)} :
    values.mapM blobOrNull? = some payloads ↔ values = payloads.map (Json.ofOption .blob) := by
  constructor
  · exact Traversal.eq_map_of_mapM_eq_some fun _ _ => blobOrNull?_eq_some_iff.1
  · rintro rfl
    exact Traversal.mapM_map_eq_some fun _ _ => blobOrNull?_eq_some_iff.2 rfl

theorem isSome_mapM_blobOrNull?_iff {values : List Json} :
    (values.mapM blobOrNull?).isSome = true ↔
      ∀ json ∈ values, ∃ bytes, json = Json.ofOption .blob bytes := by
  simp only [Option.isSome_iff_exists, mapM_blobOrNull?_eq_some_iff]
  constructor
  · rintro ⟨payloads, rfl⟩
    exact List.forall_mem_map.2 fun bytes _ => ⟨bytes, rfl⟩
  · intro h
    obtain ⟨payloads, hpayloads⟩ :=
      Traversal.exists_map_eq fun json hjson => (h json hjson).imp fun _ => Eq.symm
    exact ⟨payloads, hpayloads.symm⟩

theorem isSome_textOrNull?_iff {json : Json} :
    (textOrNull? json).isSome = true ↔ ∃ text, json = Json.ofOption .str text := by
  simp only [Option.isSome_iff_exists, textOrNull?_eq_some_iff]

/-- The payload of a record, which may be absent. -/
def payloadOf? (op : Operation) (ms : List (Option String × Json)) : Option (Option Bytes) := do
  let payloads ← (Json.valuesAt ms op.result).mapM blobOrNull?
  if (op.texts.all fun key => (Json.valuesAt ms key).all fun json => (textOrNull? json).isSome) &&
      (op.blobs.all fun key => ((Json.valuesAt ms key).mapM blobOrNull?).isSome) &&
      ms.all (·.1.isSome) then
    return payloads.getLast?.join
  else none

theorem payloadField?_eq_some_iff_members {body : String} {bytes : Option Bytes} :
    payloadField? op body = some bytes ↔
      ∃ ms, Members body ms ∧ payloadOf? op ms = some bytes := by
  rw [payloadField?]
  simp only [Members]
  by_cases hempty : body = ""
  · simp only [if_pos hempty, Option.bind_eq_bind, Option.bind_some, exists_eq_left]
    rfl
  · simp only [if_neg hempty]
    cases Json.parse? body with
    | none => simp
    | some json =>
      cases json with
      | object ms =>
        simp only [Option.some.injEq, Json.object.injEq, exists_eq_left']
        rfl
      | _ => simp

theorem payloadOf?_eq_some_iff {ms : List (Option String × Json)} {bytes : Option Bytes} :
    payloadOf? op ms = some bytes ↔ Readable op ms ∧
      (Json.valuesAt ms op.result).getLast?.getD .null = Json.ofOption .blob bytes := by
  have hlast : ∀ payloads : List (Option Bytes),
      (payloads.map (Json.ofOption .blob)).getLast?.getD .null =
        Json.ofOption .blob payloads.getLast?.join := by
    intro payloads
    rw [List.getLast?_map]
    cases payloads.getLast? <;> rfl
  have hchecks : ((op.texts.all fun key => (Json.valuesAt ms key).all fun json =>
        (textOrNull? json).isSome) &&
      (op.blobs.all fun key => ((Json.valuesAt ms key).mapM blobOrNull?).isSome) &&
      ms.all (·.1.isSome)) = true ↔
      ((∀ key ∈ op.texts, ∀ json ∈ Json.valuesAt ms key, ∃ t, json = Json.ofOption .str t) ∧
        ∀ key ∈ op.blobs, ∀ json ∈ Json.valuesAt ms key, ∃ b, json = Json.ofOption .blob b) ∧
      ∀ m ∈ ms, m.1.isSome = true := by
    simp only [Bool.and_eq_true, List.all_eq_true, isSome_mapM_blobOrNull?_iff,
      isSome_textOrNull?_iff]
  rw [payloadOf?]
  simp only [Option.bind_eq_bind, Option.bind_eq_some_iff, mapM_blobOrNull?_eq_some_iff]
  constructor
  · rintro ⟨payloads, hpayloads, h⟩
    split at h
    · rename_i hall
      obtain ⟨⟨htexts, hblobs⟩, hkeys⟩ := hchecks.1 hall
      obtain rfl := Option.some.inj h
      refine ⟨⟨hkeys, htexts, List.forall_mem_cons.2 ⟨?_, hblobs⟩⟩, by rw [hpayloads, hlast]⟩
      rw [hpayloads]
      exact List.forall_mem_map.2 fun bytes _ => ⟨bytes, rfl⟩
    · cases h
  · rintro ⟨hreadable, hvalue⟩
    obtain ⟨hpayload, hblobs⟩ := List.forall_mem_cons.1 hreadable.blobs
    obtain ⟨payloads, hpayloads⟩ :=
      Traversal.exists_map_eq fun json hjson => (hpayload json hjson).imp fun _ => Eq.symm
    refine ⟨payloads, hpayloads.symm, ?_⟩
    rw [if_pos (hchecks.2 ⟨⟨hreadable.texts, hblobs⟩, hreadable.keys⟩)]
    rw [← hpayloads, hlast] at hvalue
    exact congrArg some (ofOption_blob_injective hvalue)

theorem payloadField?_eq_some_iff {body : String} {bytes : Option Bytes} :
    payloadField? op body = some bytes ↔ Holds op body (Json.ofOption .blob bytes) := by
  rw [payloadField?_eq_some_iff_members, Holds]
  simp only [payloadOf?_eq_some_iff]

variable [Wording]

theorem payload_of_not_isSuccess (h : Http.Status.isSuccess reply.status = false) :
    ∃ detail, payload op reply = .error (failure op detail) := by
  rw [payload, h]
  exact ⟨_, rfl⟩

/-- A successful reply gives some bytes exactly if they are in its field. -/
theorem payload_eq_ok_iff (h : Http.Status.isSuccess reply.status = true) {bytes : Bytes} :
    payload op reply = .ok bytes ↔ Holds op reply.body (.blob bytes) := by
  have hread : payloadField? op reply.body = some (some bytes) ↔
      Holds op reply.body (.blob bytes) := payloadField?_eq_some_iff
  rw [← hread, payload, if_pos h]
  rcases payloadField? op reply.body with - | - | found <;> simp

/-- A successful reply is said to be malformed exactly if it can be read and has no payload. -/
theorem payload_malformed_iff (h : Http.Status.isSuccess reply.status = true) :
    (∃ detail, payload op reply = .error (.malformedResponse detail)) ↔
      Holds op reply.body .null := by
  have hread : payloadField? op reply.body = some none ↔ Holds op reply.body .null :=
    payloadField?_eq_some_iff
  rw [← hread, payload, if_pos h]
  rcases payloadField? op reply.body with - | - | found <;> simp [failure]

/-- What cannot be read is said to be a failure of the service. -/
theorem payload_of_unreadable (h : Http.Status.isSuccess reply.status = true)
    (hunreadable : ∀ value, ¬ Holds op reply.body value) :
    ∃ detail, payload op reply = .error (failure op detail) := by
  have hnone : payloadField? op reply.body = none := by
    rw [Option.eq_none_iff_forall_ne_some]
    exact fun bytes hbytes => hunreadable _ (payloadField?_eq_some_iff.1 hbytes)
  rw [payload, if_pos h, hnone]
  exact ⟨_, rfl⟩

end Aws
end Gatehouse
