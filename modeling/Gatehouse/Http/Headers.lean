import Gatehouse.Bytes

/-!
# Request headers

Headers in the order they arrive, a name possibly several times. Names are compared without regard
to case; values are bytes.
-/

namespace Gatehouse.Http

/-- The headers of a request. -/
abbrev Headers := List (String × Bytes)

namespace Headers

/-- The values under a name, in order. The name is given in lower case. -/
def values (hs : Headers) (name : String) : List Bytes :=
  (hs.filter fun h => h.1.toLower == name).map (·.2)

/-- The first value under a name. -/
def first? (hs : Headers) (name : String) : Option Bytes :=
  (hs.values name).head?

end Headers

/-- Whether a byte is a visible ASCII character, a space or a tab. -/
def isVisible (b : UInt8) : Bool :=
  (0x20 ≤ b && b < 0x7f) || b == 0x09

/-- The text of a header value, if it is visible ASCII. -/
def headerText? (value : Bytes) : Option String :=
  if value.all isVisible then some (String.ofList (value.map fun b => Char.ofNat b.toNat)) else none

end Gatehouse.Http
