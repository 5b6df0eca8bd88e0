import Livery.Json.Field
import Livery.Theme.Config

/-!
# Themes as JSON

`Theme.ofJson?` reads a theme and `Theme.toJson` writes it; the types that a theme is made of have
the same pair. Hooks are code and are neither read nor written.
-/

namespace Livery

open Json (required defaulted optional decodeText decodeBool decodeList decodeDict decodeRecord)

namespace ModifierSource

/-- The names of the sources. -/
def names : List (String × ModifierSource) := [("meta", .metaChild), ("attribute", .attribute)]

/-- The source that a value names. -/
def ofJson? : Json → Option ModifierSource := Json.decodeCase names

/-- The name of a source. -/
def toJson : ModifierSource → Json
  | .metaChild => .str "meta"
  | .attribute => .str "attribute"

end ModifierSource

namespace ModifierSpec

/-- The modifier that a value describes. -/
def ofJson? : Json → Option ModifierSpec :=
  decodeRecord ["source", "default"] fun fields => do
    let source ← required ModifierSource.ofJson? fields "source"
    let default ← optional decodeText fields "default"
    some { source, default }

/-- The value that describes a modifier. -/
def toJson (m : ModifierSpec) : Json :=
  Json.record [("source", some m.source.toJson), ("default", Json.ofText? m.default)]

end ModifierSpec

namespace ContentWrapper

/-- The wrapper that a value describes. -/
def ofJson? : Json → Option ContentWrapper :=
  decodeRecord ["tag", "ref"] fun fields => do
    let tag ← required decodeText fields "tag"
    let label ← required decodeText fields "ref"
    some { tag, label }

/-- The value that describes a wrapper. -/
def toJson (w : ContentWrapper) : Json := .obj [("tag", .str w.tag), ("ref", .str w.label)]

end ContentWrapper

namespace AttrSource

/-- The attribute value that a value describes: a text, or an object that names a modifier. -/
def ofJson? : Json → Option AttrSource
  | .str s => some (.literal s)
  | .obj fields => (required decodeText fields "fromModifier").map .fromModifier
  | _ => none

/-- The value that describes an attribute value. -/
def toJson : AttrSource → Json
  | .literal s => .str s
  | .fromModifier name => .obj [("fromModifier", .str name)]

end AttrSource

namespace IconRef

/-- The icon that a value describes. -/
def ofJson? : Json → Option IconRef :=
  decodeRecord ["group", "variant"] fun fields => do
    let group ← required decodeText fields "group"
    let variant ← required decodeText fields "variant"
    some { group, variant }

/-- The value that describes an icon. -/
def toJson (i : IconRef) : Json := .obj [("group", .str i.group), ("variant", .str i.variant)]

end IconRef

namespace TextTransform

/-- The names of the transforms. -/
def names : List (String × TextTransform) :=
  [("duration", .duration), ("uppercase", .uppercase), ("capitalize", .capitalize)]

/-- The transform of a name; any other name is unknown. -/
def ofName (name : String) : TextTransform := (names.lookup name).getD .unknown

/-- The transform that a value names. -/
def ofJson? (v : Json) : Option TextTransform := (Json.caseName? v).map ofName

/-- The name of a transform. -/
def toJson : TextTransform → Json
  | .duration => .str "duration"
  | .uppercase => .str "uppercase"
  | .capitalize => .str "capitalize"
  | .unknown => .str "unknown"

end TextTransform

namespace StyleSpec

/-- The style that a value describes: the name of a property, or an object with a template. -/
def ofJson? : Json → Option StyleSpec
  | .str s => some (.property s)
  | .obj fields => do
    let name ← required decodeText fields "prop"
    let text ← required decodeText fields "template"
    some (.template name text)
  | _ => none

/-- The value that describes a style. -/
def toJson : StyleSpec → Json
  | .property name => .str name
  | .template name text => .obj [("prop", .str name), ("template", .str text)]

end StyleSpec

namespace StructureEntry

/-- The names of the fields, in the order of their declaration. -/
def fieldNames : List String :=
  ["tag", "ref", "before", "condition", "conditionAny", "icon", "metaText", "transform",
    "textPrefix", "textSuffix", "attrs", "children"]

/-- The entry with the given fields and children. -/
def ofFields? (fields : Entries Json) (children : List StructureChild) :
    Option StructureEntry := do
  let tag ← required decodeText fields "tag"
  let label ← optional decodeText fields "ref"
  let before ← defaulted decodeBool false fields "before"
  let condition ← optional decodeText fields "condition"
  let conditionAny ← optional (decodeList decodeText) fields "conditionAny"
  let icon ← optional IconRef.ofJson? fields "icon"
  let metaText ← optional decodeText fields "metaText"
  let transform ← optional TextTransform.ofJson? fields "transform"
  let textPrefix ← optional decodeText fields "textPrefix"
  let textSuffix ← optional decodeText fields "textSuffix"
  let attrs ← defaulted (decodeDict AttrSource.ofJson?) ∅ fields "attrs"
  some { tag, label, before, condition, conditionAny, icon, metaText, transform, textPrefix,
         textSuffix, attrs, children }

mutual

/-- The child that a value describes: a text or an entry. -/
def childOfJson? : Json → Option StructureChild
  | .str s => some (.text s)
  | .obj fields => (childrenOfFields? fields).bind fun cs => (ofFields? fields cs).map .entry
  | .arr items => (childrenInRow? fieldNames items).bind fun cs =>
    (decodeRecord fieldNames (fun fields => ofFields? fields cs) (.arr items)).map .entry
  | _ => none

/-- The children that a list of values describes. -/
def childrenOfItems? : List Json → Option (List StructureChild)
  | [] => some []
  | v :: rest => (childOfJson? v).bind fun c => (childrenOfItems? rest).map fun cs => c :: cs

/-- The children that an array describes. -/
def childrenOfJson? : Json → Option (List StructureChild)
  | .arr items => childrenOfItems? items
  | _ => none

/-- The children that the field of this name gives; there are none without it. -/
def childrenOfFields? : List (String × Json) → Option (List StructureChild)
  | [] => some []
  | (key, v) :: rest => if key = "children" then childrenOfJson? v else childrenOfFields? rest

/-- The children that the item at the place of this name gives; there are none without it. -/
def childrenInRow? : List String → List Json → Option (List StructureChild)
  | [], _ => some []
  | _ :: _, [] => some []
  | name :: names, v :: rest =>
    if name = "children" then childrenOfJson? v else childrenInRow? names rest

end

/-- The entry that a value describes. -/
def ofJson? : Json → Option StructureEntry :=
  decodeRecord fieldNames fun fields => (childrenOfFields? fields).bind (ofFields? fields)

mutual

/-- The value that describes an entry. -/
def toJson : StructureEntry → Json
  | ⟨tag, label, before, condition, conditionAny, icon, metaText, transform, textPrefix,
      textSuffix, attrs, children⟩ =>
    Json.record
      [("tag", some (.str tag)),
       ("ref", Json.ofText? label),
       ("before", Json.ifSet before),
       ("condition", Json.ofText? condition),
       ("conditionAny", conditionAny.map Json.ofTextList),
       ("icon", icon.map IconRef.toJson),
       ("metaText", Json.ofText? metaText),
       ("transform", transform.map TextTransform.toJson),
       ("textPrefix", Json.ofText? textPrefix),
       ("textSuffix", Json.ofText? textSuffix),
       ("attrs", Json.unlessEmpty AttrSource.toJson attrs),
       ("children", if children.isEmpty then none else some (.arr (childrenToJson children)))]

/-- The values that describe the children of an entry. -/
def childrenToJson : List StructureChild → List Json
  | [] => []
  | .text s :: rest => .str s :: childrenToJson rest
  | .entry e :: rest => toJson e :: childrenToJson rest

end

end StructureEntry

namespace Rune

/-- The rune that a value describes. -/
def ofJson? : Json → Option Rune :=
  decodeRecord
    ["block", "parent", "modifiers", "contextModifiers", "staticModifiers", "autoLabel",
      "contentWrapper", "structure", "styles", "rootAttributes"] fun fields => do
    let block ← required decodeText fields "block"
    let parent ← optional decodeText fields "parent"
    let modifiers ← defaulted (decodeDict ModifierSpec.ofJson?) ∅ fields "modifiers"
    let contextModifiers ← defaulted (decodeDict decodeText) ∅ fields "contextModifiers"
    let staticModifiers ← defaulted (decodeList decodeText) [] fields "staticModifiers"
    let autoLabel ← defaulted (decodeDict decodeText) ∅ fields "autoLabel"
    let contentWrapper ← optional ContentWrapper.ofJson? fields "contentWrapper"
    let scaffold ← defaulted (decodeDict StructureEntry.ofJson?) ∅ fields "structure"
    let styles ← defaulted (decodeDict StyleSpec.ofJson?) ∅ fields "styles"
    let rootAttributes ← defaulted (decodeDict decodeText) ∅ fields "rootAttributes"
    some { block, parent, modifiers, contextModifiers, staticModifiers, autoLabel, contentWrapper,
           scaffold, styles, rootAttributes }

/-- The value that describes a rune. -/
def toJson (r : Rune) : Json :=
  Json.record
    [("block", some (.str r.block)),
     ("parent", Json.ofText? r.parent),
     ("modifiers", Json.unlessEmpty ModifierSpec.toJson r.modifiers),
     ("contextModifiers", Json.unlessEmpty Json.str r.contextModifiers),
     ("staticModifiers", Json.unlessNil Json.str r.staticModifiers),
     ("autoLabel", Json.unlessEmpty Json.str r.autoLabel),
     ("contentWrapper", r.contentWrapper.map ContentWrapper.toJson),
     ("structure", Json.unlessEmpty StructureEntry.toJson r.scaffold),
     ("styles", Json.unlessEmpty StyleSpec.toJson r.styles),
     ("rootAttributes", Json.unlessEmpty Json.str r.rootAttributes)]

end Rune

namespace Theme

/-- The icons that a value describes. -/
def iconsOfJson? : Json → Option Icons := decodeDict (decodeDict decodeText)

/-- The theme that a value describes. -/
def ofJson? : Json → Option Theme :=
  decodeRecord ["prefix", "tokenPrefix", "icons", "runes"] fun fields => do
    let classPrefix ← required decodeText fields "prefix"
    let tokenPrefix ← defaulted decodeText "" fields "tokenPrefix"
    let icons ← defaulted iconsOfJson? ∅ fields "icons"
    let runes ← defaulted (decodeDict Rune.ofJson?) ∅ fields "runes"
    some { classPrefix, tokenPrefix, icons, runes }

/-- The value that describes a theme. -/
def toJson (t : Theme) : Json :=
  .obj [("prefix", .str t.classPrefix),
    ("tokenPrefix", .str t.tokenPrefix),
    ("icons", .obj (t.icons.mapValues fun _ variants => Json.ofTexts variants).entries),
    ("runes", .obj (t.runes.mapValues fun _ r => r.toJson).entries)]

end Theme

end Livery
