import Livery.Diagnostic
import Livery.Json.Field

/-!
# Findings

A check of a configuration looks at the JSON value before it is decoded and lists what it finds,
each `Finding` with the path to its place. There are two kinds of problems. An unmet `Demand` says
that a value does not have the shape it has to have there; `Demand.holds` is the shape. A `Dangling`
reference names something that the configuration does not declare.

Checks are built from the combinators of this module, which keep track of paths: a check of a part
reports paths from that part, and `inside` prepends the step that leads there.
-/

namespace Livery

/-! ## Problems -/

/-- A shape that a value has to have. -/
inductive Demand
  /-- An object, for the whole of a configuration of the named kind. -/
  | whole (kind : String)
  | nonEmptyText
  /-- A text that is not empty; the field cannot be left out. -/
  | requiredText
  | object
  /-- An object with markup by variant. -/
  | iconVariants
  | iconMarkup
  /-- Any value; the field cannot be left out. -/
  | present
  | modifierSource
  | defaultText
  | text
  /-- An array of texts. -/
  | textArray
  /-- An array of texts, which has an item that is none. -/
  | textItems
  /-- An object, with fields that are named. -/
  | objectWith (fields : String)
  /-- An object with the two texts of a style template. -/
  | styleTemplate
  | textOrStyleTemplate
  | array
  /-- An array; the field cannot be left out. -/
  | requiredArray
  | textOrPageData
  | widgetKind
  | headingLevel
  | textOrObject
deriving DecidableEq

namespace Demand

/-- Whether a value is a text that is not empty. -/
def isNonEmptyText (v : Option Json) : Bool := ((v.bind Json.asText?).any (· ≠ ""))

/-- Whether a value is a text. -/
def isText (v : Option Json) : Bool := v.any Json.isText

/-- Whether a value is an object. -/
def isObject (v : Option Json) : Bool := (v.bind Json.asFields?).isSome

/-- Whether a value is an array of texts. -/
def isTextArray (v : Option Json) : Bool := (v.bind Json.asItems?).any fun l => l.all Json.isText

/-- Whether a value is an object with texts under all these names. -/
def hasTexts (names : List String) (v : Option Json) : Bool :=
  (v.bind Json.asFields?).any fun fields => names.all fun name => isText (fields.lookup name)

/-- The names of the kinds of widgets. -/
def widgetKinds : List String := ["breadcrumb", "toc", "prev-next", "version-switcher"]

/-- The greatest heading level. -/
def maxHeadingLevel : Nat := 6

/-- Whether a value, or the absence of one, has the shape. -/
def holds (d : Demand) (v : Option Json) : Bool :=
  match d with
  | .whole _ | .object | .iconVariants | .objectWith _ => isObject v
  | .nonEmptyText | .requiredText => isNonEmptyText v
  | .iconMarkup | .text | .defaultText => isText v
  | .present => v.isSome
  | .modifierSource => (v.bind Json.asText?).any fun s => s = "meta" || s = "attribute"
  | .textArray | .textItems => isTextArray v
  | .styleTemplate => hasTexts ["prop", "template"] v
  | .textOrStyleTemplate => isText v || hasTexts ["prop", "template"] v
  | .array | .requiredArray => (v.bind Json.asItems?).isSome
  | .textOrPageData => isText v || hasTexts ["fromPageData"] v
  | .widgetKind => (v.bind Json.caseName?).any widgetKinds.contains
  | .headingLevel => (v.bind (Json.decodeBelow (maxHeadingLevel + 1))).isSome
  | .textOrObject => isText v || isObject v

/-- What is said about a value without the shape. -/
def message : Demand → String
  | .whole kind => kind ++ " must be a non-null object"
  | .nonEmptyText => "Must be a non-empty string"
  | .requiredText => "Required and must be a non-empty string"
  | .object => "Must be an object"
  | .iconVariants => "Must be an object mapping variant names to SVG strings"
  | .iconMarkup => "Must be an SVG string"
  | .present => "Required field"
  | .modifierSource => "Must be \"meta\" or \"attribute\""
  | .defaultText => "Must be a string if provided"
  | .text => "Must be a string"
  | .textArray => "Must be an array of strings"
  | .textItems => "All entries must be strings"
  | .objectWith fields => "Must be an object with " ++ fields
  | .styleTemplate => "Object form must have \"prop\" and \"template\" strings"
  | .textOrStyleTemplate => "Must be a string or \x7b prop, template \x7d object"
  | .array => "Must be an array"
  | .requiredArray => "Required and must be an array"
  | .textOrPageData => "Must be a string or \x7b fromPageData \x7d object"
  | .widgetKind => "Unknown computed content type"
  | .headingLevel => "Must be a heading level"
  | .textOrObject => "Must be a string or an object"

/-- What may help to meet the demand. -/
def hints : Demand → List String
  | .widgetKind =>
    ["expected \"breadcrumb\", \"toc\", \"prev-next\" or \"version-switcher\""]
  | _ => []

end Demand

/-- A reference to something that is not declared. -/
inductive Dangling
  /-- A modifier, with the modifiers that are declared. -/
  | modifier (name : String) (declared : List String)
  | iconGroup (name : String)
  | transform (name : String)
  | layout (name : String)
  | chrome (name : String)
  | widget (name : String)
  /-- A source specifier of no known form. -/
  | source (text : String)
deriving DecidableEq

namespace Dangling

/-- A name in double quotes. -/
def quoted (name : String) : String := "\"" ++ name ++ "\""

/-- What is said about the reference. -/
def message : Dangling → String
  | .modifier name _ =>
    "References modifier " ++ quoted name ++ " which is not defined in modifiers"
  | .iconGroup name => "References icon group " ++ quoted name ++ " which is not defined in icons"
  | .transform name => "Unknown transform " ++ quoted name ++ ", the text is left unchanged"
  | .layout name => "References layout " ++ quoted name ++ " which is not defined in layouts"
  | .chrome name => "References chrome " ++ quoted name ++ " which is not defined in chrome"
  | .widget name =>
    "References computed content " ++ quoted name ++ " which is not defined in computed"
  | .source text => "Unknown source " ++ quoted text

/-- What may help to find what was meant. -/
def hints : Dangling → List String
  | .modifier _ [] => []
  | .modifier _ declared => ["declared modifiers: " ++ ", ".intercalate declared]
  | .transform _ => ["known transforms: duration, uppercase, capitalize"]
  | .source _ =>
    ["expected \"content\", \"region:<name>\", \"clone:region:<name>\", \"computed:<name>\" or " ++
      "\"chrome:<name>\""]
  | _ => []

end Dangling

/-- What is wrong at a place. -/
inductive Problem
  | unmet (d : Demand)
  | dangling (r : Dangling)
deriving DecidableEq

/-- A problem and its place. -/
structure Finding where
  path : Path
  problem : Problem
deriving DecidableEq

namespace Problem

/-- Unmet demands are errors, and dangling references are warnings. -/
def severity : Problem → Severity
  | .unmet _ => .error
  | .dangling _ => .warning

/-- What is said about a problem. -/
def message : Problem → String
  | .unmet d => d.message
  | .dangling r => r.message

/-- What may help with a problem. -/
def hints : Problem → List String
  | .unmet d => d.hints
  | .dangling r => r.hints

end Problem

/-- The report of a finding. -/
def Finding.diagnostic (f : Finding) : Diagnostic :=
  ⟨f.problem.severity, f.path.render, f.problem.message, f.problem.hints⟩

/-! ## Combinators -/

namespace Check

/-- A demand that the value itself does not meet. -/
def unmet (d : Demand) : List Finding := [⟨[], .unmet d⟩]

/-- A dangling reference at the value itself. -/
def dangling (r : Dangling) : List Finding := [⟨[], .dangling r⟩]

/-- Findings of a part, with the step to that part. -/
def inside (s : Step) (findings : List Finding) : List Finding :=
  findings.map fun f => { f with path := s :: f.path }

/-- The value has to have a shape. -/
def demand (d : Demand) (v : Option Json) : List Finding := if d.holds v then [] else unmet d

/-- A check of a field, which may be absent. -/
def field (fields : Entries Json) (key : String) (check : Option Json → List Finding) :
    List Finding :=
  inside (.field key) (check (fields.lookup key))

/-- A check of a field that is looked at only if it is present. -/
def given (fields : Entries Json) (key : String) (check : Json → List Finding) : List Finding :=
  match fields.lookup key with
  | none => []
  | some v => inside (.field key) (check v)

/-- A check of the fields of an object; anything else does not meet the demand. -/
def object (d : Demand) (check : Entries Json → List Finding) : Json → List Finding
  | .obj fields => check fields
  | _ => unmet d

/-- A check of the items of an array; anything else does not meet the demand. -/
def array (d : Demand) (check : List Json → List Finding) : Json → List Finding
  | .arr items => check items
  | _ => unmet d

/-- A check of every field of an object. -/
def eachField (check : Json → List Finding) (fields : Entries Json) : List Finding :=
  fields.flatMap fun p => inside (.field p.1) (check p.2)

/-- A check of every item of an array. -/
def eachItem (check : Json → List Finding) (items : List Json) : List Finding :=
  items.zipIdx.flatMap fun p => inside (.index p.2) (check p.1)

/-- A field that is a text if it is present. -/
def givenText (fields : Entries Json) (key : String) : List Finding :=
  given fields key fun v => demand .text (some v)

/-- A field that is a text and not empty. -/
def requiredText (fields : Entries Json) (key : String) : List Finding :=
  field fields key (demand .requiredText)

/-- A field that is an object with texts if it is present. -/
def givenTexts (fields : Entries Json) (key : String) : List Finding :=
  given fields key (object .object (eachField fun v => demand .text (some v)))

/-- The names that an object declares under a key. -/
def declared (fields : Entries Json) (key : String) : List String :=
  match fields.lookup key with
  | some (.obj entries) => Entries.keys entries
  | _ => []

end Check

end Livery
