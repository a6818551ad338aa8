import Gatehouse.Json
import Gatehouse.Limit

/-!
# Typed reading of JSON values

A record is read from an object, or from an array that holds its fields in their declared order.
In an object unknown keys are passed over, whatever their values hold, while every key must be
text and no declared key may come twice. Integers are integers in their written form.
-/

namespace Gatehouse.Json

/-- What happens when a record's text leaves a field out. -/
inductive Absence where
  /-- The record is refused. -/
  | refused
  /-- The field counts as `null` in an object; an array must hold it. -/
  | nullInObject
  /-- The field counts as `null` in an object and at the end of an array. -/
  | null
deriving DecidableEq, Repr

/-- A declared field of a record. -/
structure Field where
  /-- Its key. -/
  key : String
  /-- What its absence means. -/
  absence : Absence := .refused

namespace Field

/-- A field that must be present. -/
def required (key : String) : Field := ⟨key, .refused⟩

/-- A field that an object may leave out. -/
def optional (key : String) : Field := ⟨key, .nullInObject⟩

/-- A field that both forms may leave out. -/
def defaulted (key : String) : Field := ⟨key, .null⟩

end Field

/-- The values under one key. -/
def valuesAt (ms : List (Option String × Json)) (key : String) : List Json :=
  (ms.filter fun m => m.1 == some key).map (·.2)

/-- The value of a field among the members of an object. -/
def fieldOfMembers? (ms : List (Option String × Json)) (f : Field) : Option Json :=
  match valuesAt ms f.key with
  | [v] => some v
  | [] => if f.absence = .refused then none else some Json.null
  | _ => none

/-- The values of declared fields in an array. -/
def fieldsOfArray? : List Field → List Json → Option (List Json)
  | [], [] => some []
  | [], _ :: _ => none
  | _ :: fs, v :: vs => (fieldsOfArray? fs vs).map (v :: ·)
  | f :: fs, [] =>
    if f.absence = .null then (fieldsOfArray? fs []).map (Json.null :: ·) else none

/-- The values of the declared fields of a record, in their declared order. -/
def fields? (fs : List Field) : Json → Option (List Json)
  | object ms =>
    if ms.all fun m => m.1.isSome then fs.mapM (fieldOfMembers? ms) else none
  | array vs => fieldsOfArray? fs vs
  | _ => none

/-! ## Plain values -/

/-- A text. -/
def text? : Json → Option String
  | string s => s
  | _ => none

/-- A truth value. -/
def bool? : Json → Option Bool
  | bool b => some b
  | _ => none

/-- An integer in its written form, of any size. -/
def integer? : Json → Option Int
  | number (.integer n) => some n
  | _ => none

/-- An integer that fits 64 bits with a sign. -/
def int64? (j : Json) : Option Int := do
  let n ← integer? j
  if Limit.isInt64 n then some n else none

/-- A value or `null`. -/
def option? {α : Type} (j : Json) (decode : Json → Option α) : Option (Option α) :=
  match j with
  | null => some none
  | j => (decode j).map some

/-- The elements of an array. -/
def list? {α : Type} (j : Json) (decode : Json → Option α) : Option (List α) :=
  match j with
  | array vs => vs.mapM decode
  | _ => none

/-! ## Values that are kept whole -/

mutual

/-- Whether every key and every string of a value is text and every number is finite. -/
def isSound : Json → Bool
  | string s => s.isSome
  | number n => n.isFinite
  | array vs => areSound vs
  | object ms => areSoundMembers ms
  | _ => true

/-- Whether every value of a list is sound. -/
def areSound : List Json → Bool
  | [] => true
  | v :: vs => isSound v && areSound vs

/-- Whether every member is sound. -/
def areSoundMembers : List (Option String × Json) → Bool
  | [] => true
  | (k, v) :: ms => k.isSome && isSound v && areSoundMembers ms

end

/-- The depth from which on a value that has to be kept whole is refused. -/
def nestingLimit : Nat := 128

/-- Whether a value can be kept whole inside `depth` arrays and objects. -/
def isKeepable (depth : Nat) (j : Json) : Bool :=
  isSound j && depth + nesting j < nestingLimit

end Gatehouse.Json
