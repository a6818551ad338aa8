import Gatehouse.Limit

/-!
# Arguments of programs

A program takes options with values, flags and operands. An option's value follows its name as the
next argument or after an equals sign; an option that is not given takes its value from a variable
of the environment, and else its default. What is left after two hyphens are operands. An argument
that begins with a hyphen is never a value by itself, and no option or flag may come twice.
-/

namespace Gatehouse.Command

/-- Variables of the environment with their values. -/
abbrev Variables := List (String × String)

/-- What the value of an option has to be. -/
inductive ValueKind where
  | text
  /-- A path is not empty. -/
  | path
  /-- A count has 64 bits. -/
  | count
deriving DecidableEq, Repr

/-- The count that a text writes: digits, with a plus sign before them or without. -/
def count? (s : String) : Option Nat :=
  let digits := match s.toList with
    | '+' :: cs => cs
    | cs => cs
  if digits ≠ [] ∧ digits.all Char.isDigit then
    let n := digits.foldl (fun n c => 10 * n + (c.toNat - 48)) 0
    if n < Limit.bits64 then some n else none
  else none

/-- Whether a text is a value of a kind. -/
def ValueKind.admits : ValueKind → String → Bool
  | text, _ => true
  | path, s => s ≠ ""
  | count, s => (count? s).isSome

/-- An option of a program. -/
structure Opt where
  /-- Its name, without the hyphens before it. -/
  name : String
  /-- The variable that gives its value where no argument does. -/
  source? : Option String := none
  /-- Its value where neither an argument nor a variable gives one. -/
  default? : Option String := none
  kind : ValueKind := .text
deriving DecidableEq, Repr

/-- What a program takes. -/
structure Form where
  options : List Opt
  flags : List String := []
  /-- The greatest number of operands. -/
  operands : Nat := 0
deriving DecidableEq, Repr

/-- What a program is given. -/
structure Given where
  /-- Names of options with their values. -/
  options : List (String × String) := []
  flags : List String := []
  operands : List String := []
deriving DecidableEq, Repr

namespace Given

/-- The value of an option. -/
def value? (g : Given) (name : String) : Option String :=
  g.options.lookup name

/-- Whether an option or flag is given already. -/
def has (g : Given) (name : String) : Bool :=
  (g.value? name).isSome || g.flags.contains name

end Given

/-- Whether an argument begins like an option. A hyphen alone does not. -/
def looksLikeOption (arg : String) : Bool :=
  arg.startsWith "-" && arg ≠ "-"

/-- The name in an argument that begins with two hyphens, and the value after an equals sign. -/
def nameOf? (arg : String) : Option (String × Option String) :=
  match arg.toList with
  | '-' :: '-' :: cs =>
    let name := String.ofList (cs.takeWhile (· != '='))
    match cs.dropWhile (· != '=') with
    | _ :: value => some (name, some (String.ofList value))
    | [] => some (name, none)
  | _ => none

namespace Form

/-- Adds operands, if there is room for them. -/
def withOperands? (f : Form) (g : Given) (args : List String) : Option Given :=
  let operands := g.operands ++ args
  if operands.length ≤ f.operands then some { g with operands } else none

/-- What arguments give, besides what is given already. -/
def readArguments? (f : Form) : List String → Given → Option Given
  | [], g => some g
  | arg :: rest, g =>
    if arg = "--" then f.withOperands? g rest
    else if !looksLikeOption arg then do f.readArguments? rest (← f.withOperands? g [arg])
    else
      match nameOf? arg with
      | none => none
      | some (name, value?) =>
        if g.has name then none
        else if f.flags.contains name then
          if value?.isSome then none
          else f.readArguments? rest { g with flags := g.flags ++ [name] }
        else if f.options.any (·.name == name) then
          match value?, rest with
          | some value, rest =>
            f.readArguments? rest { g with options := g.options ++ [(name, value)] }
          | none, value :: rest =>
            if looksLikeOption value then none
            else f.readArguments? rest { g with options := g.options ++ [(name, value)] }
          | none, [] => none
        else none
termination_by args => args.length

/-- The options with the values that variables and defaults give them too. `none` if a value is
not of its kind. -/
def complete? (f : Form) (env : Variables) (g : Given) : Option Given := do
  let values ← f.options.mapM fun o => do
    let value := g.value? o.name <|> o.source?.bind (List.lookup · env) <|> o.default?
    match value with
    | none => some none
    | some value => if o.kind.admits value then some (some (o.name, value)) else none
  return { g with options := values.filterMap id }

/-- What arguments and variables give. `none` if they cannot be understood. -/
def read? (f : Form) (env : Variables) (args : List String) : Option Given := do
  f.complete? env (← f.readArguments? args {})

end Form
end Gatehouse.Command
