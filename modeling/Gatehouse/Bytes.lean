import Gatehouse.Positional

/-!
# Byte strings

A byte string is a list of octets. Numbers are written into it most significant byte first.
-/

namespace Gatehouse

/-- A byte string. -/
abbrev Bytes := List UInt8

namespace Bytes

/-- The number that a byte string writes in base 256. -/
def toNat (bs : Bytes) : Nat :=
  Positional.ofDigits 256 (bs.map UInt8.toNat)

/-- The `width` low bytes of a number, most significant first. -/
def ofNat (width n : Nat) : Bytes :=
  (Positional.digits 256 width n).map UInt8.ofNat

@[simp] theorem length_ofNat (width n : Nat) : (ofNat width n).length = width := by
  simp [ofNat]

/-- Bytewise exclusive or, as long as the shorter argument. -/
def xor (a b : Bytes) : Bytes :=
  List.zipWith (· ^^^ ·) a b

/-- The bytes of a text that holds ASCII characters only. -/
def ofAscii (s : String) : Bytes :=
  s.toList.map fun c => UInt8.ofNat c.toNat

end Bytes
end Gatehouse
