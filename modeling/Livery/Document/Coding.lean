import Livery.Document.Node
import Livery.Json.Field
import Livery.Json.Writer

/-!
# Documents as JSON

`Node.ofJson?` reads a document and `Node.toJson` writes it. An element is an object with the fields
`name`, `attributes` and `children`, of which only the name is required. An array is a list of
documents, or else the fields of an element in this order. Attributes may be given as any value:
`null` drops the attribute, numbers and truth values become their texts, and arrays and objects
their JSON texts. Numbers in content are double precision numbers throughout.
-/

namespace Livery

/-- The text of an attribute value; `null` is no value. -/
def Attrs.valueText? : Json → Option String
  | .null => none
  | .bool b => some (if b then "true" else "false")
  | .num n => some (plainNumber n.toDouble)
  | .str s => some s
  | v => some v.write

/-- The attributes that an object gives. -/
def Attrs.ofJson? : Json → Option Attrs
  | .obj fields =>
    some (Dict.ofList (fields.filterMap fun p => (Attrs.valueText? p.2).map fun v => (p.1, v)))
  | _ => none

/-- The names of the fields of an element, in the order of their declaration. -/
def Element.fieldNames : List String := ["name", "attributes", "children"]

namespace Node

/-- The element with the given fields and children. -/
def ofFields? (fields : Entries Json) (children : List Node) : Option Element := do
  let name ← Json.required Json.decodeText fields "name"
  let attrs ← Json.defaulted Attrs.ofJson? ∅ fields "attributes"
  some ⟨name, attrs, children⟩

mutual

/-- The document that a value describes. -/
def ofJson? : Json → Option Node
  | .null => some .null
  | .bool _ => none
  | .num n => some (.number n.toDouble)
  | .str s => some (.text s)
  | .arr items => ((allOfJson? items).map .array).or
    ((childrenInRow? Element.fieldNames items).bind fun cs =>
      (Json.decodeRecord Element.fieldNames (fun fields => ofFields? fields cs) (.arr items)).map
        .element)
  | .obj fields => (childrenOfFields? fields).bind fun cs => (ofFields? fields cs).map .element

/-- The documents that a list of values describes. -/
def allOfJson? : List Json → Option (List Node)
  | [] => some []
  | v :: rest => (ofJson? v).bind fun n => (allOfJson? rest).map fun ns => n :: ns

/-- The children that an array describes. -/
def childrenOfJson? : Json → Option (List Node)
  | .arr items => allOfJson? items
  | _ => none

/-- The children that the field of this name gives; there are none without it. -/
def childrenOfFields? : List (String × Json) → Option (List Node)
  | [] => some []
  | (key, v) :: rest => if key = "children" then childrenOfJson? v else childrenOfFields? rest

/-- The children that the item at the place of this name gives; there are none without it. -/
def childrenInRow? : List String → List Json → Option (List Node)
  | [], _ => some []
  | _ :: _, [] => some []
  | name :: names, v :: rest =>
    if name = "children" then childrenOfJson? v else childrenInRow? names rest

end

mutual

/-- The value that describes a document. -/
def toJson : Node → Json
  | .null => .null
  | .text s => .str s
  | .number x => .num (.float x)
  | .array nodes => .arr (allToJson nodes)
  | .element ⟨name, attrs, children⟩ =>
    .obj [("$$mdtype", .str "Tag"), ("name", .str name), ("attributes", Json.ofTexts attrs),
      ("children", .arr (allToJson children))]

/-- The values that describe a list of documents. -/
def allToJson : List Node → List Json
  | [] => []
  | n :: rest => toJson n :: allToJson rest

end

end Node

/-- The element that a value describes. -/
def Element.ofJson? : Json → Option Element :=
  Json.decodeRecord fieldNames fun fields =>
    (Node.childrenOfFields? fields).bind (Node.ofFields? fields)

/-- The value that describes an element. -/
def Element.toJson (e : Element) : Json := (Node.element e).toJson

end Livery
