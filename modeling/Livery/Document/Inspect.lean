import Livery.Document.Node
import Livery.Text.Quoted

/-!
# Inspecting documents

`Node.inspect` shows a document on one line: texts in quotes, elements as `<name key="value">`
followed by the list of their children if they have any.
-/

namespace Livery.Node

mutual

/-- A node for inspection. -/
def inspect : Node → String
  | .null => "null"
  | .text s => Text.quoted s
  | .number x => Notation.debug.render x
  | .array nodes => "[" ++ inspectAll nodes ++ "]"
  | .element ⟨name, attrs, children⟩ =>
    "<" ++ name ++ String.join (attrs.entries.map fun p => " " ++ p.1 ++ "=" ++ Text.quoted p.2) ++
      ">" ++ if children.isEmpty then "" else "[" ++ inspectAll children ++ "]"

/-- Nodes with commas between them. -/
def inspectAll : List Node → String
  | [] => ""
  | n :: rest => inspect n ++ (if rest.isEmpty then "" else ", ") ++ inspectAll rest

end

end Livery.Node
