/-!
# JSON values

A value as its text gives it: members keep their order and may repeat a key, numbers keep the
difference between an integer and a number written with a fraction or an exponent. A string or a
key may be complete as a string and still hold no text, because of a lone surrogate or a stray
byte; it is then `none`, and whoever reads the value decides whether that matters.
-/

namespace Gatehouse

/-- A number as it is written. -/
inductive Numeral where
  /-- Digits only, with a sign or without. -/
  | integer (n : Int)
  /-- The text `-0`. -/
  | minusZero
  /-- A number with a fraction or an exponent: `± significand · 10 ^ exponent`. -/
  | decimal (negative : Bool) (significand : Nat) (exponent : Int)
deriving DecidableEq, Repr

namespace Numeral

/-- The least magnitude that rounds to none of the finite doubles. -/
def overflow : Nat := Nat.pow 2 1024 - Nat.pow 2 970

/-- Whether a number fits a double in magnitude. -/
def isFinite : Numeral → Bool
  | .decimal _ significand exponent =>
    if significand = 0 then true
    else if 0 ≤ exponent then
      exponent ≤ 400 && significand * Nat.pow 10 exponent.toNat < overflow
    else
      significand < overflow * Nat.pow 10 (min (-exponent).toNat 400)
  | .integer n => n.natAbs < overflow
  | .minusZero => true

end Numeral

/-- A JSON value. -/
inductive Json where
  | null
  | bool (b : Bool)
  | number (n : Numeral)
  | string (s : Option String)
  | array (vs : List Json)
  | object (ms : List (Option String × Json))
deriving Repr

namespace Json

instance : Inhabited Json := ⟨null⟩

/-- A text. -/
def str (s : String) : Json := string (some s)

/-- An integer. -/
def int (n : Int) : Json := number (.integer n)

/-- An object with the given members. -/
def obj (ms : List (String × Json)) : Json :=
  object (ms.map fun m => (some m.1, m.2))

/-- `null` in place of an absent value. -/
def ofOption {α : Type} (f : α → Json) : Option α → Json
  | none => null
  | some a => f a

/-- The member for an optional text: none if it is absent. -/
def present (key : String) : Option String → List (String × Json)
  | none => []
  | some s => [(key, str s)]

/-- The member of an object under a key, the first if there are several. -/
def get? (j : Json) (key : String) : Option Json :=
  match j with
  | object ms => (ms.find? fun m => m.1 == some key).map (·.2)
  | _ => none

/-! ## Depth -/

mutual

/-- The greatest number of arrays and objects around any part of a value, itself included. -/
def nesting : Json → Nat
  | array vs => nestingOfList vs + 1
  | object ms => nestingOfMembers ms + 1
  | _ => 0

/-- The greatest nesting in a list. -/
def nestingOfList : List Json → Nat
  | [] => 0
  | v :: vs => max (nesting v) (nestingOfList vs)

/-- The greatest nesting among members. -/
def nestingOfMembers : List (Option String × Json) → Nat
  | [] => 0
  | (_, v) :: ms => max (nesting v) (nestingOfMembers ms)

end

end Json
end Gatehouse
