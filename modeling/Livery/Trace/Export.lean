import Livery.Json.Field
import Livery.Trace

/-!
# Exported traces

`TraceEvent.toJson` writes an event in the format of trace viewers, without its time. All events of
a run belong to one process and one thread.
-/

namespace Livery

/-- The letter of a phase. -/
def Phase.letter : Phase → String
  | .opens => "B"
  | .closes => "E"

namespace TraceEvent

/-- The category of all events. -/
def category : String := "trellis"

/-- The value that describes an event. -/
def toJson (e : TraceEvent) : Json :=
  Json.record
    [("name", some (.str e.label.name)), ("cat", some (.str category)),
     ("ph", some (.str e.phase.letter)), ("pid", some (Json.ofNat 1)),
     ("tid", some (Json.ofNat 1)),
     ("args", e.label.detail.map fun detail => .obj [("detail", .str detail)])]

end TraceEvent

end Livery
