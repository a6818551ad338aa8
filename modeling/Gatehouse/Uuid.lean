import Gatehouse.Bytes.Hex
import Gatehouse.Limit

/-!
# 128-bit identifiers

The canonical text is 32 lowercase hexadecimal digits in groups of 8, 4, 4, 4 and 12, joined by
hyphens. Reading also takes either case, the digits without hyphens, the canonical form in braces,
and the canonical form after `urn:uuid:`.
-/

namespace Gatehouse

/-- A 128-bit identifier. -/
structure Uuid where
  /-- Its value as a number. -/
  toNat : Nat
  isLt : toNat < Limit.bits128
deriving DecidableEq, Repr

namespace Uuid

/-- The identifier whose value is the low 128 bits of `n`. -/
def ofNat (n : Nat) : Uuid :=
  ⟨n % Limit.bits128, Nat.mod_lt _ Limit.bits128_pos⟩

instance : Inhabited Uuid := ⟨ofNat 0⟩

/-- The identifier with a given value, if the value fits. -/
def ofNat? (n : Nat) : Option Uuid :=
  if h : n < Limit.bits128 then some ⟨n, h⟩ else none

/-- The sixteen bytes of an identifier. -/
def toBytes (id : Uuid) : Bytes :=
  Bytes.ofNat 16 id.toNat

/-- The identifier that the last sixteen of some bytes write. -/
def ofBytes (bs : Bytes) : Uuid :=
  ofNat (Bytes.toNat bs)

/-- A random identifier of version 4, variant 1, from sixteen random bytes. -/
def ofRandom (bs : Bytes) : Uuid :=
  let high := (ofBytes bs).toNat / Limit.bits64
  let low := (ofBytes bs).toNat % Limit.bits64
  ofNat ((high / 0x10000 * 0x10000 + 0x4000 + high % 0x1000) * Limit.bits64 +
    0x8000000000000000 + low % 0x4000000000000000)

/-- The 32 hexadecimal digits. -/
def hexDigits (id : Uuid) : List Char :=
  (Positional.digits 16 32 id.toNat).map Hex.digitChar

/-- Digits grouped 8, 4, 4, 4, 12 with hyphens between. -/
def hyphenate (ds : List Char) : List Char :=
  ds.take 8 ++ '-' :: ((ds.drop 8).take 4 ++ '-' :: ((ds.drop 12).take 4 ++
    '-' :: ((ds.drop 16).take 4 ++ '-' :: ds.drop 20)))

/-- The canonical text. -/
def text (id : Uuid) : String :=
  String.ofList (hyphenate id.hexDigits)

instance : ToString Uuid := ⟨text⟩

/-- The identifier that 32 digits write. -/
def ofDigits? (ds : List Char) : Option Uuid := do
  let values ← ds.mapM Hex.digitValue?
  if values.length = 32 then ofNat? (Positional.ofDigits 16 values) else none

/-- The digits of a text of 36 characters with hyphens at the four group ends. -/
def unhyphenate? (cs : List Char) : Option (List Char) :=
  if cs.length = 36 ∧ cs[8]? = some '-' ∧ cs[13]? = some '-' ∧ cs[18]? = some '-' ∧
      cs[23]? = some '-' then
    some (cs.take 8 ++ (cs.drop 9).take 4 ++ (cs.drop 14).take 4 ++ (cs.drop 19).take 4 ++
      cs.drop 24)
  else none

/-- The identifier that a hyphenated text writes. -/
def ofHyphenated? (cs : List Char) : Option Uuid :=
  (unhyphenate? cs).bind ofDigits?

/-- The identifier that a text writes in any of the accepted forms, told apart by length. -/
def parse? (s : String) : Option Uuid :=
  let cs := s.toList
  match cs.length with
  | 32 => ofDigits? cs
  | 36 => ofHyphenated? cs
  | 38 =>
    if cs.head? = some '{' ∧ cs.getLast? = some '}' then ofHyphenated? ((cs.drop 1).take 36)
    else none
  | 45 => if cs.take 9 = "urn:uuid:".toList then ofHyphenated? (cs.drop 9) else none
  | _ => none

end Uuid
end Gatehouse
