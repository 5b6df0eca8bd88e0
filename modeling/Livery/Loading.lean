import Livery.Check.Layout
import Livery.Check.Manifest
import Livery.Check.Report
import Livery.Check.Theme
import Livery.Json.Reader
import Livery.Manifest.Coding
import Livery.Text.Split
import Livery.Theme.Coding
import Livery.Toml.Reader
import Livery.Yaml.Reader

/-!
# Loading configurations

A configuration is a text in one of three formats. It is read, checked and then decoded:
`loadTheme`, `loadLayout` and `loadManifest` return the configuration with the warnings of its
check, or the first of the three steps that fails.
-/

namespace Livery

/-- A format of configuration texts. -/
inductive Format
  | json
  | toml
  | yaml
deriving DecidableEq

namespace Format

/-- The name of a format. -/
def name : Format → String
  | .json => "JSON"
  | .toml => "TOML"
  | .yaml => "YAML"

/-- The formats by the extensions of their files. -/
def extensions : List (String × Format) :=
  [("json", .json), ("toml", .toml), ("yaml", .yaml), ("yml", .yaml)]

/-- The name of the file at a path: its last part, where `.` and empty parts do not count. -/
def fileName? (path : String) : Option String :=
  (((Text.split '/' path).filter fun p => p ≠ "" && p ≠ ".").getLast?).filter (· ≠ "..")

/-- The extension of a file: what stands behind its last dot, if anything stands in front of it. -/
def extension? (file : String) : Option String :=
  match (Text.split '.' file).reverse with
  | ext :: first :: front => if first = "" ∧ front.isEmpty then none else some ext
  | _ => none

/-- The format of the file at a path, by its extension. -/
def ofPath? (path : String) : Option Format :=
  ((fileName? path).bind extension?).bind fun ext => extensions.lookup ext

/-- The value of a text. -/
def parse? : Format → String → Option Json
  | .json, s => Json.parse? s
  | .toml, s => Toml.read s
  | .yaml, s => Yaml.read s

end Format

/-- Why a configuration is not loaded. -/
inductive LoadError
  /-- The text has no value in its format. -/
  | unreadable (format : Format)
  /-- The value has errors. -/
  | invalid (report : Report)
  /-- The value has no errors, and yet describes no configuration. -/
  | undecodable

namespace LoadError

/-- What is said about a configuration that is not loaded. -/
def message : LoadError → String
  | .unreadable format => "failed to parse " ++ format.name
  | .invalid report => Diagnostic.renderAll report.errors
  | .undecodable => "failed to decode configuration"

end LoadError

/-- A configuration with the warnings of its check. -/
structure Loaded (α : Type) where
  output : α
  warnings : List Diagnostic

/-- Loads a configuration with a check and a decoder. -/
def load {α : Type} (check : Json → List Finding) (decode : Json → Option α) (format : Format)
    (text : String) : Except LoadError (Loaded α) :=
  match format.parse? text with
  | none => .error (.unreadable format)
  | some v =>
    let report : Report := ⟨check v⟩
    if report.valid then
      match decode v with
      | some output => .ok ⟨output, report.warnings⟩
      | none => .error .undecodable
    else .error (.invalid report)

/-- Loads a theme. -/
def loadTheme : Format → String → Except LoadError (Loaded Theme) := load Check.theme Theme.ofJson?

/-- Loads a layout. -/
def loadLayout : Format → String → Except LoadError (Loaded Layout) :=
  load Check.layout Layout.ofJson?

/-- Loads a manifest. -/
def loadManifest : Format → String → Except LoadError (Loaded Manifest) :=
  load Check.manifest Manifest.ofJson?

end Livery
