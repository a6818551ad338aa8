import Gatehouse.Json

/-!
# Writing JSON

Values are written without white space. In strings, quotes, backslashes and control characters
are escaped, by a short escape where there is one, and every other character stands for itself.
-/

namespace Gatehouse.Json

/-- The lowercase hexadecimal digit of a value below 16. -/
def hexChar (n : Nat) : Char :=
  if n < 10 then Char.ofNat (48 + n) else Char.ofNat (87 + n)

/-- One character inside a string. -/
def escapedChar (c : Char) : List Char :=
  if c = '"' then ['\\', '"']
  else if c = '\\' then ['\\', '\\']
  else if c = '\x08' then ['\\', 'b']
  else if c = '\x0c' then ['\\', 'f']
  else if c = '\n' then ['\\', 'n']
  else if c = '\r' then ['\\', 'r']
  else if c = '\t' then ['\\', 't']
  else if c.toNat < 0x20 then
    ['\\', 'u', '0', '0', hexChar (c.toNat / 16), hexChar (c.toNat % 16)]
  else [c]

/-- A string with its quotes. A string that holds no text is written empty. -/
def stringChars (s : Option String) : List Char :=
  '"' :: ((s.getD "").toList.flatMap escapedChar ++ ['"'])

/-- A number. -/
def numeralChars : Numeral → List Char
  | .integer n => (toString n).toList
  | .minusZero => ['-', '0']
  | .decimal negative significand exponent =>
    (if negative then ['-'] else []) ++ (toString significand).toList ++
      'e' :: (toString exponent).toList

mutual

/-- The characters of a value. -/
def chars : Json → List Char
  | null => ['n', 'u', 'l', 'l']
  | bool true => ['t', 'r', 'u', 'e']
  | bool false => ['f', 'a', 'l', 's', 'e']
  | number n => numeralChars n
  | string s => stringChars s
  | array vs => '[' :: elementChars vs
  | object ms => '\x7b' :: memberChars ms

/-- The elements of an array with its closing bracket. -/
def elementChars : List Json → List Char
  | [] => [']']
  | [v] => chars v ++ [']']
  | v :: vs => chars v ++ ',' :: elementChars vs

/-- The members of an object with its closing brace. -/
def memberChars : List (Option String × Json) → List Char
  | [] => ['\x7d']
  | [(k, v)] => stringChars k ++ ':' :: (chars v ++ ['\x7d'])
  | (k, v) :: ms => stringChars k ++ ':' :: (chars v ++ ',' :: memberChars ms)

end

/-- The text of a value. -/
def render (j : Json) : String :=
  String.ofList (chars j)

end Gatehouse.Json
