import Livery.Decimal.Notation
import Livery.Dict

/-!
# Document trees

A document is a tree of tagged elements (`Element`) with ordered attributes (`Attrs`) and mixed
children (`Node`): text, numbers, elements, lists of siblings without an element around them, and
absent nodes. Two attributes carry meaning for the whole library: `typeof` marks an element as an
instance of a component type, and `data-name` labels it as a part of its component.

Three views of a tree are used to speak about it: `Node.leaves`, its texts and numbers in document
order, `Node.elements`, its elements in document order, and `Node.textContent`.
-/

namespace Livery

/-- The attributes of an element, in order. -/
abbrev Attrs := Dict String

mutual

/-- A node of a document tree. -/
inductive Node
  /-- An absent node. -/
  | null
  | text (s : String)
  | number (x : Double)
  /-- Siblings without an element around them. -/
  | array (nodes : List Node)
  | element (e : Element)

/-- A tagged element. -/
structure Element where
  name : String
  attrs : Attrs
  children : List Node

end

instance : Inhabited Node := ⟨.null⟩

instance : Inhabited Element := ⟨⟨"", ∅, []⟩⟩

/-- The attribute that marks an element as an instance of a component type. -/
def typeofKey : String := "typeof"

/-- The attribute that labels an element as a part of its component. -/
def labelKey : String := "data-name"

/-- A text or number of a document. -/
inductive Leaf
  | text (s : String)
  | number (x : Double)
deriving DecidableEq

/-- What a leaf contributes to the text of a document. -/
def Leaf.content : Leaf → String
  | .text s => s
  | .number x => plainNumber x

namespace Node

/-- The element, if the node is one. -/
def asElement? : Node → Option Element
  | .element e => some e
  | _ => none

/-- The text, if the node is one. -/
def asText? : Node → Option String
  | .text s => some s
  | _ => none

/-- Whether the node is an element. -/
def isElement (n : Node) : Bool := n.asElement?.isSome

mutual

/-- The texts and numbers at and below a node, in document order. -/
def leaves : Node → List Leaf
  | .null => []
  | .text s => [.text s]
  | .number x => [.number x]
  | .array nodes => leavesAll nodes
  | .element ⟨_, _, children⟩ => leavesAll children

/-- The leaves of a list of nodes, in document order. -/
def leavesAll : List Node → List Leaf
  | [] => []
  | n :: rest => leaves n ++ leavesAll rest

end

mutual

/-- The elements at and below a node, in document order; parents come before their children. -/
def elements : Node → List Element
  | .array nodes => elementsAll nodes
  | .element ⟨name, attrs, children⟩ => ⟨name, attrs, children⟩ :: elementsAll children
  | _ => []

/-- The elements of a list of nodes, in document order. -/
def elementsAll : List Node → List Element
  | [] => []
  | n :: rest => elements n ++ elementsAll rest

end

mutual

/-- The number of nodes on the longest way down. -/
def depth : Node → Nat
  | .array nodes => depthAll nodes + 1
  | .element ⟨_, _, children⟩ => depthAll children + 1
  | _ => 1

/-- The greatest depth of a list of nodes. -/
def depthAll : List Node → Nat
  | [] => 0
  | n :: rest => max (depth n) (depthAll rest)

end

/-- The text of a node and everything below it. -/
def textContent (n : Node) : String := String.join (n.leaves.map Leaf.content)

end Node

namespace Element

/-- An element without attributes and children. -/
def new (name : String) : Element := ⟨name, ∅, []⟩

/-- The element with an attribute set. -/
def withAttr (e : Element) (key value : String) : Element :=
  { e with attrs := e.attrs.insert key value }

/-- The element with other attributes. -/
def withAttrs (e : Element) (attrs : Attrs) : Element := { e with attrs }

/-- The element with one more child at the end. -/
def withChild (e : Element) (n : Node) : Element := { e with children := e.children ++ [n] }

/-- The element with other children. -/
def withChildren (e : Element) (children : List Node) : Element := { e with children }

/-- The value of an attribute. -/
def attr? (e : Element) (key : String) : Option String := e.attrs.get? key

/-- The component type that the element is an instance of. -/
def typeOf? (e : Element) : Option String := e.attr? typeofKey

/-- The label of the element within its component. -/
def label? (e : Element) : Option String := e.attr? labelKey

/-- The text of the element. -/
def textContent (e : Element) : String := (Node.element e).textContent

/-- Whether the element is a `meta` element with a property. -/
def isMeta (e : Element) : Bool := e.name = "meta" && e.attrs.contains "property"

/-- The children that are elements. -/
def childElements (e : Element) : List Element := e.children.filterMap Node.asElement?

/-- The first `meta` child with this property. -/
def findMeta? (e : Element) (property : String) : Option Element :=
  e.childElements.find? fun c => c.name = "meta" && c.attr? "property" = some property

/-- The content of the first `meta` child with this property. -/
def readMeta? (e : Element) (property : String) : Option String :=
  (e.findMeta? property).bind fun c => c.attr? "content"

/-- The first child element with this label. -/
def findLabel? (e : Element) (label : String) : Option Element :=
  e.childElements.find? fun c => c.label? = some label

/-- The children that are not `meta` elements. -/
def contentChildren (e : Element) : List Node :=
  e.children.filter fun n => match n with
    | .element c => c.name ≠ "meta"
    | _ => true

end Element

end Livery
