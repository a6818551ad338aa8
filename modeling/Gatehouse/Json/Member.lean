import Gatehouse.Bytes.Hex
import Gatehouse.Json.Decode
import Gatehouse.Uuid

/-!
# Reading members

Reading single members of an object. A member that is absent counts as `null`. What cannot be read
fails with the key of the member.
-/

namespace Gatehouse.Json

/-- Reading an object; a failure is the key of a member. -/
abbrev Reading := Except String

/-- Bytes in hexadecimal. -/
def hex? (j : Json) : Option Bytes := j.text?.bind Hex.decode?

/-- A natural number. -/
def nat? (j : Json) : Option Nat :=
  j.integer?.bind fun n => if 0 ≤ n then some n.toNat else none

/-- An identifier in any of its forms. -/
def uuid? (j : Json) : Option Uuid := j.text?.bind Uuid.parse?

variable {α : Type}

/-- A member that may be `null`. -/
def member? (decode : Json → Option α) (j : Json) (key : String) : Reading (Option α) :=
  match (j.get? key).getD .null with
  | .null => .ok none
  | v =>
    match decode v with
    | some a => .ok (some a)
    | none => .error key

/-- A member that is not `null`. -/
def member (decode : Json → Option α) (j : Json) (key : String) : Reading α := do
  match ← member? decode j key with
  | some a => .ok a
  | none => .error key

/-- A truth value that is false if it is absent. -/
def flag (j : Json) (key : String) : Reading Bool := do
  return (← member? bool? j key).getD false

end Gatehouse.Json
