import Livery.Document.Node

/-!
# Equality of documents

Two documents are the same (`Node.same`) if they have the same shape, names, texts and attributes,
where the order of the attributes of an element does not matter. Numbers are compared by value, so
the two zeros are the same.
-/

namespace Livery

/-- Whether two ordered maps hold the same pairs, in whatever order. -/
def Dict.same {α : Type} [DecidableEq α] (d e : Dict α) : Bool :=
  d.size = e.size && d.entries.all fun p => e.get? p.1 = some p.2

namespace Node

mutual

/-- Whether two nodes are the same up to the order of attributes. -/
def same : Node → Node → Bool
  | .null, .null => true
  | .text s, .text t => s = t
  | .number x, .number y => x.same y
  | .array ns, .array ms => sameAll ns ms
  | .element ⟨name, attrs, children⟩, .element f =>
    name = f.name && attrs.same f.attrs && sameAll children f.children
  | _, _ => false

/-- `same` for lists of nodes, one by one. -/
def sameAll : List Node → List Node → Bool
  | [], [] => true
  | n :: ns, m :: ms => same n m && sameAll ns ms
  | _, _ => false

end

end Node

end Livery
