import Livery.Check.Finding

/-!
# Reports

A `Report` collects the findings of a check. It is valid if there are no errors; warnings do not
count.
-/

namespace Livery

/-- The findings of a check. -/
structure Report where
  findings : List Finding

namespace Report

/-- The diagnostics of one severity, in the order in which they were found. -/
def diagnostics (r : Report) (severity : Severity) : List Diagnostic :=
  (r.findings.filter fun f => f.problem.severity = severity).map Finding.diagnostic

/-- The errors. -/
def errors (r : Report) : List Diagnostic := r.diagnostics .error

/-- The warnings. -/
def warnings (r : Report) : List Diagnostic := r.diagnostics .warning

/-- Whether there are no errors. -/
def valid (r : Report) : Bool := r.errors.isEmpty

/-- Whether there is an error at a path. -/
def hasError (r : Report) (path : String) : Bool := r.errors.any fun d => d.path = path

/-- Whether there is a warning at a path. -/
def hasWarning (r : Report) (path : String) : Bool := r.warnings.any fun d => d.path = path

/-- The warnings of a valid configuration, or else the text of all errors. -/
def outcome (r : Report) : Except String (List Diagnostic) :=
  if r.valid then .ok r.warnings else .error (Diagnostic.renderAll r.errors)

end Report

end Livery
