import Gatehouse.Bytes

/-!
# Base64

Two dialects: the standard alphabet with padding, and the alphabet for URLs without it. Reading
accepts canonical text only: the padding that the dialect asks for and no other, no foreign
character, and zero in the bits that the last character leaves over.
-/

namespace Gatehouse.Base64

/-- An alphabet together with whether the last group is padded to four characters. -/
structure Dialect where
  /-- The character of the value 62. -/
  char62 : Char
  /-- The character of the value 63. -/
  char63 : Char
  /-- Whether `=` fills up the last group. -/
  padded : Bool

/-- The standard alphabet, padded. -/
def standard : Dialect := ⟨'+', '/', true⟩

/-- The alphabet for URLs and file names, without padding. -/
def urlSafe : Dialect := ⟨'-', '_', false⟩

namespace Dialect

/-- The character that stands for a value below 64. -/
def char (d : Dialect) (n : Nat) : Char :=
  if n < 26 then Char.ofNat (65 + n)
  else if n < 52 then Char.ofNat (71 + n)
  else if n < 62 then Char.ofNat (n - 4)
  else if n = 62 then d.char62
  else d.char63

/-- The value that a character stands for. -/
def value? (d : Dialect) (c : Char) : Option Nat :=
  if 'A' ≤ c ∧ c ≤ 'Z' then some (c.toNat - 65)
  else if 'a' ≤ c ∧ c ≤ 'z' then some (c.toNat - 71)
  else if '0' ≤ c ∧ c ≤ '9' then some (c.toNat + 4)
  else if c = d.char62 then some 62
  else if c = d.char63 then some 63
  else none

/-- Fills for a last group that lacks `n` characters. -/
def padding (d : Dialect) (n : Nat) : List Char :=
  if d.padded then List.replicate n '=' else []

/-- Four characters for every three bytes. -/
def encodeChars (d : Dialect) : Bytes → List Char
  | [] => []
  | [a] =>
    let n := a.toNat
    d.char (n / 4) :: d.char (n % 4 * 16) :: d.padding 2
  | [a, b] =>
    let n := a.toNat * 256 + b.toNat
    d.char (n / 1024) :: d.char (n / 16 % 64) :: d.char (n % 16 * 4) :: d.padding 1
  | a :: b :: c :: rest =>
    let n := (a.toNat * 256 + b.toNat) * 256 + c.toNat
    d.char (n / 262144) :: d.char (n / 4096 % 64) :: d.char (n / 64 % 64) :: d.char (n % 64) ::
      encodeChars d rest

/-- The text of a byte string. -/
def encode (d : Dialect) (bs : Bytes) : String :=
  String.ofList (d.encodeChars bs)

/-- One byte from a last group of two characters. -/
def lastTwo? (d : Dialect) (a b : Char) : Option Bytes := do
  let a ← d.value? a
  let b ← d.value? b
  if b % 16 = 0 then some [UInt8.ofNat (a * 4 + b / 16)] else none

/-- Two bytes from a last group of three characters. -/
def lastThree? (d : Dialect) (a b c : Char) : Option Bytes := do
  let a ← d.value? a
  let b ← d.value? b
  let c ← d.value? c
  let n := (a * 64 + b) * 16 + c / 4
  if c % 4 = 0 then some [UInt8.ofNat (n / 256), UInt8.ofNat (n % 256)] else none

/-- Three bytes from a whole group. -/
def whole? (d : Dialect) (a b c e : Char) : Option Bytes := do
  let a ← d.value? a
  let b ← d.value? b
  let c ← d.value? c
  let e ← d.value? e
  let n := ((a * 64 + b) * 64 + c) * 64 + e
  some [UInt8.ofNat (n / 65536), UInt8.ofNat (n / 256 % 256), UInt8.ofNat (n % 256)]

/-- The bytes of a canonical text. -/
def decodeChars? (d : Dialect) : List Char → Option Bytes
  | [] => some []
  | [_] => none
  | [a, b] => if d.padded then none else d.lastTwo? a b
  | [a, b, c] => if d.padded then none else d.lastThree? a b c
  | [a, b, c, e] =>
    if d.padded ∧ e = '=' then
      if c = '=' then d.lastTwo? a b else d.lastThree? a b c
    else d.whole? a b c e
  | a :: b :: c :: e :: rest => do
    let bytes ← d.whole? a b c e
    let more ← decodeChars? d rest
    return bytes ++ more

/-- The bytes that a text writes; `none` when the text is not canonical. -/
def decode? (d : Dialect) (s : String) : Option Bytes :=
  d.decodeChars? s.toList

end Dialect
end Gatehouse.Base64
