import Gatehouse.Log
import Gatehouse.Text.Quoted

/-!
# Log lines

An event on one line: its level, the spans around it from the outermost on, its target, its message
and its values. The time that goes before it is not part of the event.
-/

namespace Gatehouse.Log

/-- The text of a value. -/
def Value.render : Value → String
  | text s => s
  | quoted s => Text.quoted s
  | number n => toString n
  | flag b => toString b

/-- A value with its name. -/
def renderField (f : String × Value) : String :=
  f.1 ++ "=" ++ f.2.render

/-- A span with its values. -/
def Span.render (s : Span) : String :=
  s.name ++ "\x7b" ++ " ".intercalate (s.fields.map renderField) ++ "\x7d"

/-- The line of an event. -/
def Event.line (e : Event) : String :=
  let spans := ":".intercalate (e.spans.reverse.map Span.render)
  let context := if e.spans.isEmpty then "" else spans ++ ": "
  let told := " ".intercalate (e.message :: e.fields.map renderField)
  s!"{e.level.name} {context}{e.target}: {told}"

end Gatehouse.Log
