import Gatehouse.Bytes.Utf8
import Gatehouse.Json

/-!
# Reading JSON

The reader works on a byte string read as UTF-8, where `none` stands for a byte outside every
character. It accepts exactly one value with white space around it. Bytes without a character and
lone surrogates are let through inside strings, and no depth is refused: both are left to the
reader of the value.
-/

namespace Gatehouse.Json.Reader

/-- What is left to read. -/
abbrev Input := List (Option Char)

/-- The input after any white space. -/
def skipBlank : Input → Input
  | some c :: rest => if c = ' ' ∨ c = '\n' ∨ c = '\t' ∨ c = '\r' then skipBlank rest
    else some c :: rest
  | input => input

/-- The input after a given word. -/
def skipWord (word : String) (input : Input) : Option Input :=
  (word.toList.map some).isPrefixOf? input

/-! ## Strings -/

/-- A piece of a string between its quotes. -/
inductive Piece where
  /-- A character, as itself or by a short escape. -/
  | char (c : Char)
  /-- A 16-bit unit by its number. -/
  | unit (n : Nat)
  /-- A byte that belongs to no character. -/
  | stray
deriving DecidableEq, Repr

/-- The value of a hexadecimal digit. -/
def hexValue? (c : Option Char) : Option Nat :=
  match c with
  | none => none
  | some c =>
    if '0' ≤ c ∧ c ≤ '9' then some (c.toNat - 48)
    else if 'a' ≤ c ∧ c ≤ 'f' then some (c.toNat - 87)
    else if 'A' ≤ c ∧ c ≤ 'F' then some (c.toNat - 55)
    else none

/-- The character that a short escape names. -/
def escaped? (c : Char) : Option Char :=
  match c with
  | '"' => some '"'
  | '\\' => some '\\'
  | '/' => some '/'
  | 'b' => some '\x08'
  | 'f' => some '\x0c'
  | 'n' => some '\n'
  | 'r' => some '\r'
  | 't' => some '\t'
  | _ => none

/-- The pieces of a string up to its closing quote, and the input after it. -/
def pieces : Input → Option (List Piece × Input)
  | [] => none
  | none :: rest => (pieces rest).map fun r => (.stray :: r.1, r.2)
  | some '"' :: rest => some ([], rest)
  | some '\\' :: some 'u' :: a :: b :: c :: d :: rest => do
    let a ← hexValue? a
    let b ← hexValue? b
    let c ← hexValue? c
    let d ← hexValue? d
    let r ← pieces rest
    some (.unit (((a * 16 + b) * 16 + c) * 16 + d) :: r.1, r.2)
  | some '\\' :: some e :: rest => do
    let c ← escaped? e
    let r ← pieces rest
    some (.char c :: r.1, r.2)
  | some '\\' :: _ => none
  | some c :: rest =>
    if c.toNat < 0x20 then none else (pieces rest).map fun r => (.char c :: r.1, r.2)

/-- The text that pieces make, if every surrogate has its partner and no byte is stray. -/
def textOf : List Piece → Option (List Char)
  | [] => some []
  | .char c :: rest => (textOf rest).map (c :: ·)
  | .stray :: _ => none
  | .unit hi :: .unit lo :: rest =>
    if 0xD800 ≤ hi ∧ hi < 0xDC00 then
      if 0xDC00 ≤ lo ∧ lo < 0xE000 then
        (textOf rest).map
          (Char.ofNat (0x10000 + (hi - 0xD800) * 0x400 + (lo - 0xDC00)) :: ·)
      else none
    else if 0xDC00 ≤ hi ∧ hi < 0xE000 then none
    else (textOf (.unit lo :: rest)).map (Char.ofNat hi :: ·)
  | .unit n :: rest =>
    if 0xD800 ≤ n ∧ n < 0xE000 then none else (textOf rest).map (Char.ofNat n :: ·)

/-- A string after its opening quote. -/
def stringBody (input : Input) : Option (Option String × Input) :=
  (pieces input).map fun r => ((textOf r.1).map String.ofList, r.2)

/-! ## Numbers -/

/-- The value of a decimal digit. -/
def digit? (c : Option Char) : Option Nat :=
  match c with
  | none => none
  | some c => if '0' ≤ c ∧ c ≤ '9' then some (c.toNat - 48) else none

/-- The digits that an input begins with. -/
def digits : Input → List Nat × Input
  | [] => ([], [])
  | c :: rest =>
    match digit? c with
    | some d => (d :: (digits rest).1, (digits rest).2)
    | none => ([], c :: rest)

/-- The number that decimal digits write. -/
def decimalValue (ds : List Nat) : Nat :=
  ds.foldl (fun n d => n * 10 + d) 0

/-- The digits before the point: one zero, or any that do not begin with zero. -/
def wholePart (input : Input) : Option (List Nat × Input) :=
  match digits input with
  | ([], _) => none
  | (0 :: _ :: _, _) => none
  | r => some r

/-- The digits after the point, if there is one. -/
def fractionPart : Input → Option (Option (List Nat) × Input)
  | some '.' :: rest =>
    match digits rest with
    | ([], _) => none
    | (ds, rest) => some (some ds, rest)
  | input => some (none, input)

/-- The digits of an exponent behind its sign. -/
def exponentDigits (negative : Bool) (input : Input) : Option (Option Int × Input) :=
  match digits input with
  | ([], _) => none
  | (ds, rest) =>
    let n : Int := decimalValue ds
    some (some (if negative then -n else n), rest)

/-- The exponent, if there is one. -/
def exponentPart : Input → Option (Option Int × Input)
  | some e :: some s :: rest =>
    if e = 'e' ∨ e = 'E' then
      if s = '-' then exponentDigits true rest
      else if s = '+' then exponentDigits false rest
      else exponentDigits false (some s :: rest)
    else some (none, some e :: some s :: rest)
  | some e :: rest => if e = 'e' ∨ e = 'E' then none else some (none, some e :: rest)
  | input => some (none, input)

/-- A number after its sign. -/
def unsigned (negative : Bool) (input : Input) : Option (Numeral × Input) := do
  let (whole, rest) ← wholePart input
  let (fraction, rest) ← fractionPart rest
  let (exponent, rest) ← exponentPart rest
  match fraction, exponent with
  | none, none =>
    let n := decimalValue whole
    if negative then some (if n = 0 then .minusZero else .integer (-n), rest)
    else some (.integer n, rest)
  | _, _ =>
    let ds := whole ++ fraction.getD []
    let shift : Int := (fraction.getD []).length
    some (.decimal negative (decimalValue ds) (exponent.getD 0 - shift), rest)

/-- A number. -/
def number : Input → Option (Numeral × Input)
  | some '-' :: rest => unsigned true rest
  | input => unsigned false input

/-! ## Values -/

mutual

/-- A value and the input after it. The fuel bounds the depth. -/
def value : (fuel : Nat) → Input → Option (Json × Input)
  | 0, _ => none
  | fuel + 1, input =>
    match skipBlank input with
    | some '"' :: rest => (stringBody rest).map fun r => (.string r.1, r.2)
    | some '[' :: rest =>
      match skipBlank rest with
      | some ']' :: rest => some (.array [], rest)
      | rest => (elements fuel rest).map fun r => (.array r.1, r.2)
    | some '\x7b' :: rest =>
      match skipBlank rest with
      | some '\x7d' :: rest => some (.object [], rest)
      | rest => (members fuel rest).map fun r => (.object r.1, r.2)
    | some 'n' :: rest => (skipWord "ull" rest).map fun rest => (.null, rest)
    | some 't' :: rest => (skipWord "rue" rest).map fun rest => (.bool true, rest)
    | some 'f' :: rest => (skipWord "alse" rest).map fun rest => (.bool false, rest)
    | rest => (number rest).map fun r => (.number r.1, r.2)

/-- The elements of an array from the first on, with its closing bracket. -/
def elements : (fuel : Nat) → Input → Option (List Json × Input)
  | 0, _ => none
  | fuel + 1, input => do
    let (v, rest) ← value fuel input
    match skipBlank rest with
    | some ',' :: rest =>
      let (vs, rest) ← elements fuel rest
      some (v :: vs, rest)
    | some ']' :: rest => some ([v], rest)
    | _ => none

/-- The members of an object from the first on, with its closing brace. -/
def members : (fuel : Nat) → Input → Option (List (Option String × Json) × Input)
  | 0, _ => none
  | fuel + 1, input =>
    match skipBlank input with
    | some '"' :: rest => do
      let (key, rest) ← stringBody rest
      match skipBlank rest with
      | some ':' :: rest =>
        let (v, rest) ← value fuel rest
        match skipBlank rest with
        | some ',' :: rest =>
          let (ms, rest) ← members fuel rest
          some ((key, v) :: ms, rest)
        | some '\x7d' :: rest => some ([(key, v)], rest)
        | _ => none
      | _ => none
    | _ => none

end

/-- A whole input that is one value. Each level of depth takes at least one character, so the
length of the input is fuel enough. -/
def document (input : Input) : Option Json :=
  match value (2 * input.length + 2) input with
  | some (v, rest) => if skipBlank rest = [] then some v else none
  | none => none

end Reader

/-- The value that a byte string writes. -/
def ofBytes? (bs : Bytes) : Option Json :=
  Reader.document (Utf8.decode bs)

/-- The value that a text writes. -/
def parse? (s : String) : Option Json :=
  Reader.document (s.toList.map some)

end Gatehouse.Json
