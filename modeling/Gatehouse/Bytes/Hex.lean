import Gatehouse.Bytes

/-!
# Hexadecimal text

Bytes are written as two lowercase digits each. Reading takes digits of either case.
-/

namespace Gatehouse.Hex

/-- The lowercase digit for a value below 16. -/
def digitChar (n : Nat) : Char :=
  if n < 10 then Char.ofNat (48 + n) else Char.ofNat (87 + n)

/-- The value of a hexadecimal digit of either case. -/
def digitValue? (c : Char) : Option Nat :=
  if '0' ≤ c ∧ c ≤ '9' then some (c.toNat - 48)
  else if 'a' ≤ c ∧ c ≤ 'f' then some (c.toNat - 87)
  else if 'A' ≤ c ∧ c ≤ 'F' then some (c.toNat - 55)
  else none

/-- Two lowercase digits for each byte. -/
def encode (bs : Bytes) : String :=
  String.ofList (bs.flatMap fun b => [digitChar (b.toNat / 16), digitChar (b.toNat % 16)])

/-- The bytes that pairs of digits write; `none` at a lone or foreign character. -/
def decodeChars? : List Char → Option Bytes
  | [] => some []
  | [_] => none
  | hi :: lo :: rest => do
    let hi ← digitValue? hi
    let lo ← digitValue? lo
    let bytes ← decodeChars? rest
    return UInt8.ofNat (16 * hi + lo) :: bytes

/-- The bytes that a hexadecimal text writes. -/
def decode? (s : String) : Option Bytes :=
  decodeChars? s.toList

end Gatehouse.Hex
