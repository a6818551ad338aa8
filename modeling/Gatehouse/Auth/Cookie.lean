import Gatehouse.Bytes.Utf8
import Gatehouse.Text.Blank

/-!
# Cookies

A cookie header is a row of pairs with semicolons between. A pair is a name and a value with an
equals sign between; a pair that has none or is no text is passed over. White space around name and
value does not count, nor does one pair of double quotes around the value. The last pair with a
name gives its value.
-/

namespace Gatehouse.Cookie

/-- The parts of a byte string between semicolons. -/
def pairs (header : Bytes) : List Bytes :=
  match header with
  | [] => [[]]
  | b :: rest =>
    match pairs rest with
    | [] => [[b]]
    | p :: ps => if b = 0x3b then [] :: p :: ps else (b :: p) :: ps

/-- A text without the double quotes around it; a text that does not have both keeps what it has. -/
def unquoted (cs : List Char) : List Char :=
  match cs with
  | '"' :: rest => if rest.getLast? = some '"' then rest.dropLast else cs
  | _ => cs

/-- The value in a pair of characters, if its name is the given one. -/
def valueOf? (name : List Char) (cs : List Char) : Option (List Char) :=
  match cs.dropWhile (· != '=') with
  | [] => none
  | _ :: value =>
    if Text.trimChars (cs.takeWhile (· != '=')) = name then some (unquoted (Text.trimChars value))
    else none

/-- The value in a pair, if it is text and its name is the given one. -/
def value? (name : String) (pair : Bytes) : Option String :=
  (Utf8.text? pair).bind fun s => (valueOf? name.toList s.toList).map String.ofList

/-- The last value under a name in some cookie headers. -/
def last? (headers : List Bytes) (name : String) : Option String :=
  ((headers.flatMap pairs).filterMap (value? name)).getLast?

end Gatehouse.Cookie
