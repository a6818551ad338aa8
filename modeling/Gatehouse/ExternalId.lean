import Gatehouse.Uuid

/-!
# External ids

Outside the service an identifier is written `<label>_<suffix>`: the label names the kind of
resource, the suffix is the 128-bit value in lowercase base 36, padded with zeros to 25 digits.
Each identifier has exactly one external form under a label, and reading accepts that form alone.
-/

namespace Gatehouse

/-- The kind of resource that an external id names. -/
structure IdFormat where
  /-- The text before the last underscore. -/
  label : String
deriving DecidableEq, Repr

/-- A text that is no external id of the expected kind. -/
structure InvalidId where
  /-- The label that was expected. -/
  expected : String
deriving DecidableEq, Repr

/-- What is said about such a text. -/
def InvalidId.message (e : InvalidId) : String :=
  "invalid " ++ e.expected ++ " id"

namespace IdFormat

/-- Projects. -/
def project : IdFormat := ⟨"project"⟩
/-- Organizations. -/
def organization : IdFormat := ⟨"organization"⟩
/-- Users. -/
def user : IdFormat := ⟨"user"⟩
/-- Sessions. -/
def session : IdFormat := ⟨"session"⟩
/-- Session signing keys. The external id of a key is also the key id in token headers. -/
def signingKey : IdFormat := ⟨"session_signing_key"⟩
/-- Records of backend API keys. -/
def apiKey : IdFormat := ⟨"backend_api_key"⟩
/-- Bearer secrets of backend API keys. -/
def apiKeySecret : IdFormat := ⟨"portier_secret_key"⟩

/-- Number of base-36 digits that every 128-bit value fits. -/
def suffixLength : Nat := 25

/-- The digit for a value below 36. -/
def digitChar (n : Nat) : Char :=
  if n < 10 then Char.ofNat (48 + n) else Char.ofNat (87 + n)

/-- The value of a base-36 digit; capital letters are none. -/
def digitValue? (c : Char) : Option Nat :=
  if '0' ≤ c ∧ c ≤ '9' then some (c.toNat - 48)
  else if 'a' ≤ c ∧ c ≤ 'z' then some (c.toNat - 87)
  else none

/-- The 25 digits of an identifier. -/
def suffix (id : Uuid) : List Char :=
  (Positional.digits 36 suffixLength id.toNat).map digitChar

/-- The external form of an identifier. -/
def format (f : IdFormat) (id : Uuid) : String :=
  String.ofList (f.label.toList ++ '_' :: suffix id)

/-- The value of some digits with one more behind them. Values are kept in 128 bits: the value so
far has to fit once it is moved up by a place, and again once the digit is added. -/
def pushDigit? (value : Uuid) (c : Char) : Option Uuid := do
  let digit ← digitValue? c
  let moved ← Uuid.ofNat? (value.toNat * 36)
  Uuid.ofNat? (moved.toNat + digit)

/-- The identifier that 25 digits write, if its value fits 128 bits. -/
def ofSuffix? (cs : List Char) : Option Uuid :=
  if cs.length = suffixLength then cs.foldlM pushDigit? (.ofNat 0) else none

/-- The identifier that an external form writes. -/
def parse (f : IdFormat) (s : String) : Except InvalidId Uuid :=
  match (f.label.toList ++ ['_']).isPrefixOf? s.toList |>.bind ofSuffix? with
  | some id => .ok id
  | none => .error ⟨f.label⟩

end IdFormat
end Gatehouse
