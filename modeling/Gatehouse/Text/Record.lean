import Gatehouse.Text.Quoted

/-!
# Records as text

The form in which a record is shown to a developer: its name, and in braces its fields with their
values. Two points stand for fields that are left out.
-/

namespace Gatehouse.Text

/-- A record with some of its fields; `more` says that others are left out. -/
def record (name : String) (fields : List (String × String)) (more : Bool := false) : String :=
  let shown := fields.map (fun f => f.1 ++ ": " ++ f.2) ++ if more then [".."] else []
  if shown.isEmpty then name else name ++ " \x7b " ++ ", ".intercalate shown ++ " \x7d"

/-- A value that may be absent. -/
def optional {α : Type} (show? : α → String) : Option α → String
  | none => "None"
  | some a => "Some(" ++ show? a ++ ")"

/-- Values in brackets. -/
def list {α : Type} (show? : α → String) (values : List α) : String :=
  "[" ++ ", ".intercalate (values.map show?) ++ "]"

/-- A number of seconds. -/
def seconds (n : Nat) : String :=
  if n = 0 then "0ns" else s!"{n}s"

/-- What is shown in the place of a secret. -/
def redacted : String := quoted "[REDACTED]"

end Gatehouse.Text
