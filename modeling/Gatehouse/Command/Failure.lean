import Gatehouse.Call

/-!
# Failures of programs

A program that fails tells what it was doing and then the causes, each the reason of the one before
it. A single cause is indented; several are numbered too. Lines after the first one of a cause are
indented as far as the first one is.
-/

namespace Gatehouse

/-- Why a program failed. -/
structure Failure where
  /-- What it was doing. -/
  context : String
  causes : List String := []
deriving DecidableEq, Repr

namespace Failure

/-- The failure of something that has a reason of its own. -/
def because (context cause : String) : Failure := ⟨context, [cause]⟩

/-- A text with something before its first line and blanks before its other lines. -/
def indented (start : String) (indent : Nat) (s : String) : String :=
  start ++ ("\n" ++ String.ofList (List.replicate indent ' ')).intercalate (s.splitOn "\n")

/-- The causes as paragraphs, the first one with a given number. -/
def numbered : Nat → List String → List String
  | _, [] => []
  | n, cause :: rest =>
    let digits := toString n
    let start := String.ofList (List.replicate (5 - digits.length) ' ') ++ digits ++ ": "
    indented start 7 cause :: numbered (n + 1) rest

/-- The paragraphs of the causes. -/
def paragraphs : List String → List String
  | [cause] => [indented "    " 4 cause]
  | causes => numbered 0 causes

/-- What the program prints when it fails. -/
def report (f : Failure) : String :=
  let causes :=
    if f.causes.isEmpty then ""
    else "\n\nCaused by:\n" ++ "\n".intercalate (paragraphs f.causes)
  s!"Error: {f.context}{causes}\n"

end Failure

/-- A call whose failure is told with what the program was doing. -/
def Call.explain {σ ε α : Type} (context : String) (message : ε → String) (c : Call σ ε α) :
    Call σ Failure α :=
  c.mapError fun e => .because context (message e)

end Gatehouse
