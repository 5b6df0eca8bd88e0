import Livery.Document.Node
import Livery.Text.Blank

/-!
# Selectors

`Node.selectors` lists what a style sheet could target in a document: a class selector for every
class that begins with a prefix, and an attribute selector for every `data-` attribute. The list is
sorted by kind (blocks, modifiers, elements, attributes), then by text, and holds each selector
once.
-/

namespace Livery

namespace Selector

/-- Whether a text begins with another. -/
def beginsWith (start s : String) : Bool := start.toList.isPrefixOf s.toList

/-- Whether the characters `part` stand somewhere in the list. -/
def occursIn (part : List Char) : List Char → Bool
  | [] => part.isEmpty
  | c :: rest => part.isPrefixOf (c :: rest) || occursIn part rest

/-- The kind of a selector: block, modifier, element or attribute. -/
def kind (s : String) : Nat :=
  if beginsWith "[" s then 3
  else if occursIn ['_', '_'] s.toList then 2
  else if occursIn ['-', '-'] s.toList then 1
  else 0

/-- The order of selectors: by kind, then by text. -/
def le (s t : String) : Bool := kind s < kind t || (kind s = kind t && s ≤ t)

/-- The list without the items that equal their predecessor. -/
def withoutRepeats : List String → List String
  | [] => []
  | [s] => [s]
  | s :: t :: rest => if s = t then withoutRepeats (t :: rest) else s :: withoutRepeats (t :: rest)

end Selector

open Selector

/-- The selectors of one element: its classes that begin with `start`, then its data attributes. -/
def Element.selectors (start : String) (e : Element) : List String :=
  ((Text.words ((e.attr? "class").getD "")).filter (beginsWith start)).map (fun c => "." ++ c) ++
    (e.attrs.entries.filter fun p => beginsWith "data-" p.1).map fun p =>
      "[" ++ p.1 ++ "=\"" ++ p.2 ++ "\"]"

/-- The selectors of a document, for classes that begin with the prefix and a hyphen. -/
def Node.selectors (classPrefix : String) (n : Node) : List String :=
  withoutRepeats
    ((n.elements.flatMap (Element.selectors (classPrefix ++ "-"))).mergeSort Selector.le)

end Livery
