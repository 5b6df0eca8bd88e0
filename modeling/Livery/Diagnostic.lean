import Livery.Json.Field

/-!
# Diagnostics

A `Diagnostic` reports a problem in a configuration: how severe it is, where it is, what it is, and
what may help. `Diagnostic.render` writes one on a line, and `Diagnostic.renderAll` several.
-/

namespace Livery

/-- The severity of a problem. -/
inductive Severity
  /-- The configuration cannot be used. -/
  | error
  /-- The configuration can be used, but something in it leads nowhere. -/
  | warning
deriving DecidableEq

/-- The name of a severity. -/
def Severity.toText : Severity → String
  | .error => "error"
  | .warning => "warning"

/-- A reported problem. -/
structure Diagnostic where
  severity : Severity
  /-- The place, in dotted form; empty for the whole configuration. -/
  path : String
  message : String
  hints : List String := []
deriving DecidableEq

namespace Diagnostic

/-- A diagnostic on a line. -/
def render (d : Diagnostic) : String :=
  (if d.path = "" then d.message else d.path ++ ": " ++ d.message) ++
    String.join (d.hints.map fun h => " (hint: " ++ h ++ ")")

/-- Several diagnostics, one on each line. -/
def renderAll (ds : List Diagnostic) : String := "\n".intercalate (ds.map render)

/-- The value that describes a diagnostic. -/
def toJson (d : Diagnostic) : Json :=
  Json.record
    [("severity", some (.str d.severity.toText)), ("path", some (.str d.path)),
     ("message", some (.str d.message)), ("hints", Json.unlessNil Json.str d.hints)]

end Diagnostic

end Livery
