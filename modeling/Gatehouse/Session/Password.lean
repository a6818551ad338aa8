import Gatehouse.Bytes.Base64

/-!
# Stored passwords

A password is stored as the digest that Argon2id makes of it and of a random salt. The text names
the function, its version and its costs, so that a later choice of costs leaves old texts readable.
-/

namespace Gatehouse

/-- What a password digest costs. -/
structure PasswordCost where
  /-- Memory in KiB. -/
  memory : Nat := 19456
  /-- Passes over the memory. -/
  passes : Nat := 2
  lanes : Nat := 1
deriving DecidableEq, Repr

/-- A stored password. -/
structure PasswordHash where
  cost : PasswordCost := {}
  salt : Bytes
  digest : Bytes
deriving DecidableEq, Repr

namespace PasswordHash

/-- The part of the text that is the same for all passwords of one cost. -/
def head (cost : PasswordCost) : String :=
  s!"$argon2id$v=19$m={cost.memory},t={cost.passes},p={cost.lanes}"

/-- Base64 with the common alphabet and without padding. -/
def encode (bytes : Bytes) : String :=
  String.ofList ((Base64.standard.encode bytes).toList.filter (· != '='))

/-- The text of a stored password. -/
def text (h : PasswordHash) : String :=
  s!"{head h.cost}${encode h.salt}${encode h.digest}"

end PasswordHash
end Gatehouse
