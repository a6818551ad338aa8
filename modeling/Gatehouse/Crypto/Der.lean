import Gatehouse.Bytes

/-!
# Distinguished encoding of elements

An element is a tag of one byte, a length in its shortest form and that many bytes of content.
Reading accepts the tags of universal, application, context-specific and private elements with
numbers below 31, and lengths of at most four bytes.
-/

namespace Gatehouse.Der

/-- An element. -/
structure Element where
  tag : UInt8
  content : Bytes
deriving DecidableEq, Repr

/-! ## Tags -/

/-- `INTEGER`. -/
def integer : UInt8 := 0x02
/-- `BIT STRING`. -/
def bitString : UInt8 := 0x03
/-- `OCTET STRING`. -/
def octetString : UInt8 := 0x04
/-- `SEQUENCE`. -/
def sequence : UInt8 := 0x30

/-- The tags of universal types that are known. -/
def universalTags : List UInt8 :=
  [0x01, 0x02, 0x03, 0x04, 0x05, 0x06, 0x09, 0x0a, 0x0c, 0x12, 0x13, 0x14, 0x15, 0x16, 0x17, 0x18,
   0x1a, 0x1b, 0x1e, 0x30, 0x31]

/-- Whether a byte is a tag that can be read. -/
def isKnownTag (tag : UInt8) : Bool :=
  if tag < 0x40 then universalTags.contains tag else tag % 32 != 31

/-- The number of a context-specific tag. -/
def contextNumber? (tag : UInt8) : Option Nat :=
  if tag / 64 = 2 then some (tag % 32).toNat else none

/-- Whether an element holds further elements by its tag. -/
def isConstructed (tag : UInt8) : Bool :=
  tag / 32 % 2 == 1

/-! ## Writing -/

/-- The bytes of a length below `2 ^ 32`. -/
def lengthBytes (n : Nat) : Bytes :=
  if n < 0x80 then [UInt8.ofNat n]
  else if n < 0x100 then 0x81 :: Bytes.ofNat 1 n
  else if n < 0x10000 then 0x82 :: Bytes.ofNat 2 n
  else if n < 0x1000000 then 0x83 :: Bytes.ofNat 3 n
  else 0x84 :: Bytes.ofNat 4 n

/-- The bytes of an element. -/
def Element.bytes (e : Element) : Bytes :=
  e.tag :: (lengthBytes e.content.length ++ e.content)

/-- The bytes of an element with given tag and content. -/
def write (tag : UInt8) (content : Bytes) : Bytes :=
  (Element.mk tag content).bytes

/-! ## Reading -/

/-- A length and the bytes after it. Every length has one form, the shortest. -/
def readLength? : Bytes → Option (Nat × Bytes)
  | [] => none
  | first :: rest =>
    if first < 0x80 then some (first.toNat, rest)
    else
      let size := first.toNat - 0x80
      let n := Bytes.toNat (rest.take size)
      if 1 ≤ size ∧ size ≤ 4 ∧ size ≤ rest.length ∧ lengthBytes n = first :: rest.take size then
        some (n, rest.drop size)
      else none

/-- The first element and the bytes after it. -/
def read? : Bytes → Option (Element × Bytes)
  | [] => none
  | tag :: rest =>
    if isKnownTag tag then
      match readLength? rest with
      | some (n, body) =>
        if n ≤ body.length then some (⟨tag, body.take n⟩, body.drop n) else none
      | none => none
    else none

/-- Elements one after the other, at most `fuel` of them. -/
def readAll? : (fuel : Nat) → Bytes → Option (List Element)
  | _, [] => some []
  | 0, _ => none
  | fuel + 1, bs => do
    let (e, rest) ← read? bs
    let es ← readAll? fuel rest
    return e :: es

/-- The elements that fill some bytes. -/
def elements? (bs : Bytes) : Option (List Element) :=
  readAll? bs.length bs

/-- The one element that fills some bytes. -/
def single? (bs : Bytes) : Option Element :=
  match read? bs with
  | some (e, []) => some e
  | _ => none

/-- The elements of the one sequence that fills some bytes. -/
def sequence? (bs : Bytes) : Option (List Element) := do
  let e ← single? bs
  if e.tag = sequence then elements? e.content else none

/-- The bytes of a bit string whose bits fill whole bytes. -/
def wholeBits? : Bytes → Option Bytes
  | 0 :: bs => some bs
  | _ => none

/-- The context-specific element with a given number, which the elements with lower numbers may
precede, and what follows. -/
def takeContext (number : Nat) : List Element → Option Element × List Element
  | [] => (none, [])
  | e :: es =>
    match contextNumber? e.tag with
    | none => (none, e :: es)
    | some n =>
      if n < number then takeContext number es
      else if n = number then (some e, es)
      else (none, e :: es)

end Gatehouse.Der
