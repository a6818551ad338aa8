import Gatehouse.Text.Printable

/-!
# Quoted text

The form in which a text is shown inside a message: double quotes around it, a backslash before
quotes and backslashes, short names for four control characters, and the hexadecimal number of
every other character that would not stand for itself.
-/

namespace Gatehouse.Text

/-- The hexadecimal digits of a number, lowercase and without leading zeros. -/
def hexNumber (n : Nat) : String :=
  String.ofList (Nat.toDigits 16 n)

/-- One character of a quoted text. -/
def quotedChar (c : Char) : String :=
  if c = '\x00' then "\\0"
  else if c = '\t' then "\\t"
  else if c = '\r' then "\\r"
  else if c = '\n' then "\\n"
  else if c = '\\' then "\\\\"
  else if c = '"' then "\\\""
  else if isPrintable c then c.toString
  else "\\u\x7b" ++ hexNumber c.toNat ++ "\x7d"

/-- The quoted form of a text. -/
def quoted (s : String) : String :=
  "\"" ++ String.join (s.toList.map quotedChar) ++ "\""

end Gatehouse.Text
