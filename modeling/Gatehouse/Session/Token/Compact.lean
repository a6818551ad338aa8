import Gatehouse.Bytes.Base64
import Gatehouse.Bytes.Utf8
import Gatehouse.Json.Reader

/-!
# Compact tokens

A token is three parts with dots between: header, payload and signature, each in base64 for URLs.
The signature covers the text of the first two parts. A token is cut at its last two dots.
-/

namespace Gatehouse

/-- The parts of a token. -/
structure CompactToken where
  header : String
  payload : String
  signature : String
deriving DecidableEq, Repr

namespace CompactToken

/-- The token that parts make. -/
def render (t : CompactToken) : String :=
  s!"{t.header}.{t.payload}.{t.signature}"

/-- A text cut at its last dot. -/
def cutLast? (cs : List Char) : Option (List Char × List Char) :=
  match cs.reverse.dropWhile (· != '.') with
  | [] => none
  | _ :: before => some (before.reverse, (cs.reverse.takeWhile (· != '.')).reverse)

/-- The parts of a text with at least two dots. -/
def parse? (s : String) : Option CompactToken := do
  let (message, signature) ← cutLast? s.toList
  let (header, payload) ← cutLast? message
  return ⟨.ofList header, .ofList payload, .ofList signature⟩

/-- What the signature covers. -/
def message (t : CompactToken) : Bytes :=
  Utf8.encode s!"{t.header}.{t.payload}"

/-- The JSON value in a part. -/
def partJson? (part : String) : Option Json :=
  (Base64.urlSafe.decode? part).bind Json.ofBytes?

end CompactToken
end Gatehouse
