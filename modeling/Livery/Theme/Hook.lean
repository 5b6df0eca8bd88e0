import Livery.Json.Reader
import Livery.Json.Writer
import Livery.Theme.Config

/-!
# Hooks

Two hooks that themes share. `Hook.retag` gives a component another tag name. `Hook.rowTable`
rebuilds the content of a component as a table from rows that a modifier holds as JSON text: an
array of objects or arrays. The keys of the first row, if it is an object, are the header of the
table, and every later object is written under that header.
-/

namespace Livery.Hook

/-- The component under another tag name. -/
def retag (name : String) : RuneHook := fun e _ => { e with name }

/-- The text of a cell. -/
def cellText : Json → String
  | .null => ""
  | .str s => s
  | .num n => plainNumber n.toDouble
  | v => v.write

/-- The rows that a text holds; a text without rows holds none. -/
def rowsOf (text : String) : List Json :=
  match Json.parse? text with
  | some (.arr rows) => rows
  | _ => []

/-- The keys of the first row, if it is an object. -/
def headerOf : List Json → List String
  | .obj fields :: _ => Entries.keys fields
  | _ => []

/-- The cells of a row under a header, if it is an object or an array. -/
def cells? (header : List String) : Json → Option (List String)
  | .obj fields => some (header.map fun key => ((fields.lookup key).map cellText).getD "")
  | .arr items => some (items.map cellText)
  | _ => none

/-- A table row of cells with the given tag. -/
def tableRow (tag : String) (texts : List String) : Node :=
  .element ⟨"tr", ∅, texts.map fun s => .element ⟨tag, ∅, [.text s]⟩⟩

/-- The table of the rows: a head if there is a header, and a body with a row for each item. -/
def table (rows : List Json) : Element :=
  let header := headerOf rows
  let head := if header.isEmpty then []
    else [Node.element ⟨"thead", ∅, [tableRow "th" header]⟩]
  let body := (rows.filterMap (cells? header)).map (tableRow "td")
  ⟨"table", (∅ : Attrs).insert labelKey "table", head ++ [.element ⟨"tbody", ∅, body⟩]⟩

/-- The component with the table of the rows that a modifier holds as its only child. -/
def rowTable (modifier : String) : RuneHook := fun e context =>
  e.withChildren [.element (table (rowsOf ((context.modifiers.get? modifier).getD "")))]

end Livery.Hook
