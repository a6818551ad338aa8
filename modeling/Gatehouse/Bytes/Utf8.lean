import Gatehouse.Bytes

/-!
# UTF-8

Reading is lenient: `decode` gives every character that the bytes hold, and `none` for each byte
that belongs to no character, so that a format can decide where such bytes are tolerated. A byte
below 128 is always a character of its own. `text?` is the strict reading of a whole byte string.
-/

namespace Gatehouse.Utf8

/-- The bytes of a text. -/
def encode (s : String) : Bytes :=
  s.toList.flatMap String.utf8EncodeChar

/-- The character with a given number, unless the number is a surrogate or too large. -/
def scalar? (n : Nat) : Option Char :=
  if h : n.isValidChar then some (Char.ofNatAux n h) else none

/-- The payload of a continuation byte. -/
def tail? (b : UInt8) : Option Nat :=
  if 0x80 ≤ b ∧ b < 0xC0 then some (b.toNat - 0x80) else none

/-- The first character of a byte string, with the number of bytes it takes after its first.
Forms that are longer than needed are refused. -/
def lead? : Bytes → Option (Char × Nat)
  | [] => none
  | a :: rest =>
    if a < 0x80 then some (Char.ofNat a.toNat, 0)
    else if a < 0xC2 then none
    else if a < 0xE0 then
      match rest with
      | b :: _ => do
        let b ← tail? b
        let c ← scalar? ((a.toNat - 0xC0) * 64 + b)
        some (c, 1)
      | _ => none
    else if a < 0xF0 then
      match rest with
      | b :: c :: _ => do
        let b ← tail? b
        let c ← tail? c
        let n := ((a.toNat - 0xE0) * 64 + b) * 64 + c
        if n < 0x800 then none
        else
          let c ← scalar? n
          some (c, 2)
      | _ => none
    else if a < 0xF5 then
      match rest with
      | b :: c :: d :: _ => do
        let b ← tail? b
        let c ← tail? c
        let d ← tail? d
        let n := (((a.toNat - 0xF0) * 64 + b) * 64 + c) * 64 + d
        if n < 0x10000 then none
        else
          let c ← scalar? n
          some (c, 3)
      | _ => none
    else none

/-- The reading of a byte string after `skip` bytes that belong to a character already given. -/
def decodeFrom : (skip : Nat) → Bytes → List (Option Char)
  | _, [] => []
  | skip + 1, _ :: rest => decodeFrom skip rest
  | 0, a :: rest =>
    match lead? (a :: rest) with
    | some (c, more) => some c :: decodeFrom more rest
    | none => none :: decodeFrom 0 rest

/-- The characters of a byte string in order, with `none` for a byte that belongs to none. -/
def decode (bs : Bytes) : List (Option Char) :=
  decodeFrom 0 bs

/-- The text that a byte string encodes, if every byte belongs to a character. -/
def text? (bs : Bytes) : Option String :=
  ((decode bs).mapM id).map String.ofList

end Gatehouse.Utf8
