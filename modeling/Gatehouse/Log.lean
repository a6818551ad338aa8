/-!
# Log events

What a call tells its operator. An event names the part of the service that emits it, a message and
named values; the spans around it tell on whose behalf the work is done.
-/

namespace Gatehouse.Log

/-- How much an event matters. -/
inductive Level where
  | error
  | warn
  | info
  | debug
  | trace
deriving DecidableEq, Repr

/-- The name of a level. -/
def Level.name : Level → String
  | error => "ERROR"
  | warn => "WARN"
  | info => "INFO"
  | debug => "DEBUG"
  | trace => "TRACE"

/-- A named value of an event. -/
inductive Value where
  | text (s : String)
  /-- A text that is shown in quotes on a line. -/
  | quoted (s : String)
  | number (n : Int)
  | flag (b : Bool)
deriving DecidableEq, Repr

/-- Named values in their order. -/
abbrev Fields := List (String × Value)

/-- What surrounds an event. -/
structure Span where
  name : String
  fields : Fields
deriving DecidableEq, Repr

/-- An event. -/
structure Event where
  level : Level
  target : String
  message : String
  fields : Fields := []
  /-- The enclosing spans, innermost first. -/
  spans : List Span := []
deriving DecidableEq, Repr

/-- An event inside one more enclosing span. -/
def Event.within (e : Event) (s : Span) : Event :=
  { e with spans := e.spans ++ [s] }

end Gatehouse.Log
