import Gatehouse.Log

/-!
# Choice of log events

A filter is a list of directives with commas between them, such as `info,portier_server=debug`. A
directive admits events up to a level, either all of them or those whose target begins with a text.
For each event the directive with the longest such text decides. A directive without a level admits
every level, and one that cannot be read counts for nothing. If none is left, errors are admitted.
-/

namespace Gatehouse.Log

/-- The rank of a level; the greater, the less an event matters. -/
def Level.rank : Level → Nat
  | error => 1
  | warn => 2
  | info => 3
  | debug => 4
  | trace => 5

/-- Which levels are admitted for some targets. -/
structure Directive where
  /-- What the targets begin with. -/
  target : String
  /-- The greatest rank that is admitted; zero admits none. -/
  rank : Nat
deriving DecidableEq, Repr

namespace Directive

/-- The rank that a text names. -/
def rank? (s : String) : Option Nat :=
  match s.toLower with
  | "off" | "0" => some 0
  | "error" | "1" => some 1
  | "warn" | "2" => some 2
  | "info" | "3" => some 3
  | "debug" | "4" => some 4
  | "trace" | "5" => some 5
  | _ => none

/-- A character of a target. -/
def isTargetChar (c : Char) : Bool :=
  c.isAlphanum || c == '_' || c == ':' || c == '-'

/-- Whether a text names targets. -/
def isTarget (s : String) : Bool :=
  s ≠ "" && s.toList.all isTargetChar

/-- The directive that a text gives. -/
def parse? (s : String) : Option Directive :=
  match rank? s, s.splitOn "=" with
  | some rank, _ => some ⟨"", rank⟩
  | none, [target] => if isTarget target then some ⟨target, Level.trace.rank⟩ else none
  | none, [target, level] =>
    if isTarget target then
      if level = "" then some ⟨target, Level.trace.rank⟩ else (rank? level).map (⟨target, ·⟩)
    else none
  | none, _ => none

/-- Whether a directive says something about a target. -/
def concerns (d : Directive) (target : String) : Bool :=
  d.target.toList.isPrefixOf target.toList

end Directive

/-- Directives, the later ones in place of earlier ones for the same targets. -/
structure Filter where
  directives : List Directive
deriving DecidableEq, Repr

namespace Filter

/-- The filter that a text gives. -/
def parse (s : String) : Filter :=
  match (s.splitOn ",").filterMap Directive.parse? with
  | [] => ⟨[⟨"", Level.error.rank⟩]⟩
  | ds => ⟨ds⟩

/-- The more special of two directives; the second if neither is. -/
def moreSpecial (a b : Directive) : Directive :=
  if b.target.length < a.target.length then a else b

/-- The directive that decides about a target. -/
def decisive? (f : Filter) (target : String) : Option Directive :=
  match f.directives.filter (·.concerns target) with
  | [] => none
  | d :: ds => some (ds.foldl moreSpecial d)

/-- Whether an event is admitted. -/
def admits (f : Filter) (e : Event) : Bool :=
  (f.decisive? e.target).any fun d => e.level.rank ≤ d.rank

end Filter
end Gatehouse.Log
