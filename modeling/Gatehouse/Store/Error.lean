/-!
# Failures of the identity store
-/

namespace Gatehouse

/-- Why a store operation failed. -/
inductive StoreError where
  /-- The entry that is asked for, or one that a new entry refers to, does not exist. -/
  | notFound (detail : String)
  /-- An entry with the same unique value exists. -/
  | alreadyExists (detail : String)
  /-- A condition that was checked inside the transaction does not hold. -/
  | preconditionFailed (detail : String)
  /-- Another writer holds the tables. -/
  | conflict (detail : String)
  /-- The email quota of the day is used up. -/
  | quotaExceeded (usage quota : Nat)
  /-- The tables could not be opened. -/
  | connectionFailed (detail : String)
  /-- A statement could not be carried out. -/
  | queryFailed (detail : String)
  /-- The caller gave an impossible value. -/
  | invalidInput (detail : String)
  /-- A stored value does not have the form it should have. -/
  | malformedValue (detail : String)
  /-- A transaction could not be begun or committed. -/
  | transactionFailed (detail : String)
deriving DecidableEq, Repr

namespace StoreError

/-- The name of a kind of failure, for programs. -/
def name : StoreError → String
  | notFound _ => "NotFound"
  | alreadyExists _ => "AlreadyExists"
  | preconditionFailed _ => "PreconditionFailed"
  | conflict _ => "Conflict"
  | quotaExceeded .. => "QuotaExceeded"
  | connectionFailed _ => "ConnectionFailed"
  | queryFailed _ => "QueryFailed"
  | invalidInput _ => "InvalidInput"
  | malformedValue _ => "Serialization"
  | transactionFailed _ => "Transaction"

/-- What is said about a failure. -/
def message : StoreError → String
  | notFound detail => "entry not found: " ++ detail
  | alreadyExists detail => "entry already exists: " ++ detail
  | preconditionFailed detail => "precondition failed: " ++ detail
  | conflict detail => "conflicting concurrent write: " ++ detail
  | quotaExceeded usage quota => s!"email daily quota exceeded: {usage} of {quota}"
  | connectionFailed detail => "connection failed: " ++ detail
  | queryFailed detail => "query failed: " ++ detail
  | invalidInput detail => "invalid input: " ++ detail
  | malformedValue detail => "serialization error: " ++ detail
  | transactionFailed detail => "transaction error: " ++ detail

/-- The failure of a statement that the database has refused, by the code and the message of the
refusal. The low byte of a code is its kind, and the kinds 5 and 6 are held locks. -/
def ofRefusal (code : Nat) (message : String) : StoreError :=
  if code % 256 = 5 ∨ code % 256 = 6 then .conflict message
  else .queryFailed s!"error returned from database: (code: {code}) {message}"

end StoreError
end Gatehouse
