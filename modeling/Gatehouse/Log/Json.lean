import Gatehouse.Json
import Gatehouse.Log

/-!
# Log events as JSON
-/

namespace Gatehouse.Log

/-- A value as JSON. -/
def Value.toJson : Value → Json
  | text s | quoted s => .str s
  | number n => .int n
  | flag b => .bool b

/-- Named values as JSON. -/
def Fields.toJson (fs : Fields) : Json :=
  .obj (fs.map fun f => (f.1, f.2.toJson))

/-- A span as JSON. -/
def Span.toJson (s : Span) : Json :=
  .obj [("name", .str s.name), ("fields", Fields.toJson s.fields)]

/-- An event as JSON. -/
def Event.toJson (e : Event) : Json :=
  .obj [("level", .str e.level.name), ("target", .str e.target), ("message", .str e.message),
    ("fields", Fields.toJson e.fields), ("spans", .array (e.spans.map Span.toJson))]

end Gatehouse.Log
