import Livery.Json.Display
import Livery.Json.Writer
import Livery.Layout.Config

/-!
# Layouts as JSON

`Layout.ofJson?` reads a layout and `Layout.toJson` writes it; the types that a layout is made of
have the same pair. An object among the children of a slot is a slot or a fragment: its fields
decide (`SlotChild.isSlot`), and it is written with its kind. A child that is neither a text nor an
object is a misfit (`SlotChild.misfit?`), which is reported with a message of its own.
-/

namespace Livery

open Json (required defaulted optional decodeText decodeBool decodeList decodeDict decodeRecord)

/-! ## Fragments -/

namespace ChromeAttr

/-- The attribute value that a value describes: a text, or an object with a path. -/
def ofJson? : Json → Option ChromeAttr
  | .str s => some (.literal s)
  | .obj fields => (required decodeText fields "fromPageData").map .fromPage
  | _ => none

/-- The value that describes an attribute value. -/
def toJson : ChromeAttr → Json
  | .literal s => .str s
  | .fromPage path => .obj [("fromPageData", .str path)]

end ChromeAttr

namespace Iteration

/-- The iteration that a value describes. -/
def ofJson? : Json → Option Iteration :=
  decodeRecord ["source", "tag", "class"] fun fields => do
    let source ← required decodeText fields "source"
    let tag ← required decodeText fields "tag"
    let classes ← optional decodeText fields "class"
    some { source, tag, classes }

/-- The value that describes an iteration. -/
def toJson (i : Iteration) : Json :=
  Json.record
    [("source", some (.str i.source)), ("tag", some (.str i.tag)),
     ("class", Json.ofText? i.classes)]

end Iteration

namespace Chrome

/-- The names of the fields, in the order of their declaration. -/
def fieldNames : List String :=
  ["tag", "ref", "attrs", "svg", "pageText", "pageCondition", "condition", "dateFormat",
    "textPrefix", "textSuffix", "iterate", "children"]

/-- The fragment with the given fields and children. -/
def ofFields? (fields : Entries Json) (children : List ChromeChild) : Option Chrome := do
  let tag ← required decodeText fields "tag"
  let label ← optional decodeText fields "ref"
  let attrs ← defaulted (decodeDict ChromeAttr.ofJson?) ∅ fields "attrs"
  let markup ← optional decodeText fields "svg"
  let pageText ← optional decodeText fields "pageText"
  let pageCondition ← optional decodeText fields "pageCondition"
  let condition ← optional decodeText fields "condition"
  let dateFormat ← optional DateFormat.ofJson? fields "dateFormat"
  let textPrefix ← optional decodeText fields "textPrefix"
  let textSuffix ← optional decodeText fields "textSuffix"
  let iteration ← optional Iteration.ofJson? fields "iterate"
  some { tag, label, attrs, markup, pageText, pageCondition, condition, dateFormat, textPrefix,
         textSuffix, iteration, children }

mutual

/-- The child that a value describes: a text or a fragment. -/
def childOfJson? : Json → Option ChromeChild
  | .str s => some (.text s)
  | .obj fields => (childrenOfFields? fields).bind fun cs => (ofFields? fields cs).map .entry
  | .arr items => (childrenInRow? fieldNames items).bind fun cs =>
    (decodeRecord fieldNames (fun fields => ofFields? fields cs) (.arr items)).map .entry
  | _ => none

/-- The children that a list of values describes. -/
def childrenOfItems? : List Json → Option (List ChromeChild)
  | [] => some []
  | v :: rest => (childOfJson? v).bind fun c => (childrenOfItems? rest).map fun cs => c :: cs

/-- The children that an array describes. -/
def childrenOfJson? : Json → Option (List ChromeChild)
  | .arr items => childrenOfItems? items
  | _ => none

/-- The children that the field of this name gives; there are none without it. -/
def childrenOfFields? : List (String × Json) → Option (List ChromeChild)
  | [] => some []
  | (key, v) :: rest => if key = "children" then childrenOfJson? v else childrenOfFields? rest

/-- The children that the item at the place of this name gives; there are none without it. -/
def childrenInRow? : List String → List Json → Option (List ChromeChild)
  | [], _ => some []
  | _ :: _, [] => some []
  | name :: names, v :: rest =>
    if name = "children" then childrenOfJson? v else childrenInRow? names rest

end

/-- The fragment that a value describes. -/
def ofJson? : Json → Option Chrome :=
  decodeRecord fieldNames fun fields => (childrenOfFields? fields).bind (ofFields? fields)

mutual

/-- The fields that describe a fragment. -/
def toFields : Chrome → List (String × Option Json)
  | ⟨tag, label, attrs, markup, pageText, pageCondition, condition, dateFormat, textPrefix,
      textSuffix, iteration, children⟩ =>
    [("tag", some (.str tag)),
     ("ref", Json.ofText? label),
     ("attrs", Json.unlessEmpty ChromeAttr.toJson attrs),
     ("svg", Json.ofText? markup),
     ("pageText", Json.ofText? pageText),
     ("pageCondition", Json.ofText? pageCondition),
     ("condition", Json.ofText? condition),
     ("dateFormat", dateFormat.map DateFormat.toJson),
     ("textPrefix", Json.ofText? textPrefix),
     ("textSuffix", Json.ofText? textSuffix),
     ("iterate", iteration.map Iteration.toJson),
     ("children", if children.isEmpty then none else some (.arr (childrenToJson children)))]

/-- The values that describe the children of a fragment. -/
def childrenToJson : List ChromeChild → List Json
  | [] => []
  | .text s :: rest => .str s :: childrenToJson rest
  | .entry c :: rest => Json.record (toFields c) :: childrenToJson rest

end

/-- The value that describes a fragment. -/
def toJson (c : Chrome) : Json := Json.record c.toFields

end Chrome

/-! ## Widgets -/

namespace WidgetKind

/-- The names of the kinds. -/
def names : List (String × WidgetKind) :=
  [("breadcrumb", .breadcrumb), ("toc", .toc), ("prev-next", .prevNext),
   ("version-switcher", .versionSwitcher)]

/-- The name of a kind. -/
def toText : WidgetKind → String
  | .breadcrumb => "breadcrumb"
  | .toc => "toc"
  | .prevNext => "prev-next"
  | .versionSwitcher => "version-switcher"

end WidgetKind

namespace TocOptions

/-- The options that a value describes. -/
def ofJson? : Json → Option TocOptions :=
  decodeRecord ["minLevel", "maxLevel"] fun fields => do
    let minLevel ← optional (Json.decodeBelow (Nat.pow 2 8)) fields "minLevel"
    let maxLevel ← optional (Json.decodeBelow (Nat.pow 2 8)) fields "maxLevel"
    some { minLevel, maxLevel }

/-- The value that describes options. -/
def toJson (o : TocOptions) : Json :=
  Json.record
    [("minLevel", o.minLevel.map Json.ofNat), ("maxLevel", o.maxLevel.map Json.ofNat)]

end TocOptions

namespace Visibility

/-- The visibility that a value describes. -/
def ofJson? : Json → Option Visibility :=
  decodeRecord ["frontmatterToggle", "minCount"] fun fields => do
    let toggle ← optional decodeText fields "frontmatterToggle"
    let minCount ← optional (Json.decodeBelow (Nat.pow 2 64)) fields "minCount"
    some { toggle, minCount }

/-- The value that describes a visibility. -/
def toJson (v : Visibility) : Json :=
  Json.record
    [("frontmatterToggle", Json.ofText? v.toggle), ("minCount", v.minCount.map Json.ofNat)]

end Visibility

namespace Widget

/-- The widget that a value describes. -/
def ofJson? : Json → Option Widget :=
  decodeRecord ["type", "source", "options", "visibility"] fun fields => do
    let kind ← required (Json.decodeCase WidgetKind.names) fields "type"
    let source ← defaulted decodeText "" fields "source"
    let options ← optional TocOptions.ofJson? fields "options"
    let visibility ← optional Visibility.ofJson? fields "visibility"
    some { kind, source, options, visibility }

/-- The value that describes a widget. -/
def toJson (w : Widget) : Json :=
  Json.record
    [("type", some (.str w.kind.toText)), ("source", some (.str w.source)),
     ("options", w.options.map TocOptions.toJson),
     ("visibility", w.visibility.map Visibility.toJson)]

end Widget

/-! ## Parts of slots -/

namespace RegionModifier

/-- The modifier that a value describes. -/
def ofJson? : Json → Option RegionModifier :=
  decodeRecord ["region", "modifier"] fun fields => do
    let region ← required decodeText fields "region"
    let modifier ← required decodeText fields "modifier"
    some { region, modifier }

/-- The value that describes a modifier. -/
def toJson (m : RegionModifier) : Json :=
  .obj [("region", .str m.region), ("modifier", .str m.modifier)]

end RegionModifier

namespace WidgetModifier

/-- The modifier that a value describes. -/
def ofJson? : Json → Option WidgetModifier :=
  decodeRecord ["computed", "modifier"] fun fields => do
    let widget ← required decodeText fields "computed"
    let modifier ← required decodeText fields "modifier"
    some { widget, modifier }

/-- The value that describes a modifier. -/
def toJson (m : WidgetModifier) : Json :=
  .obj [("computed", .str m.widget), ("modifier", .str m.modifier)]

end WidgetModifier

namespace SlotWrapper

/-- The wrapper that a value describes. -/
def ofJson? : Json → Option SlotWrapper :=
  decodeRecord ["tag", "class", "conditionalModifier"] fun fields => do
    let tag ← required decodeText fields "tag"
    let classes ← optional decodeText fields "class"
    let modifier ← optional WidgetModifier.ofJson? fields "conditionalModifier"
    some { tag, classes, modifier }

/-- The value that describes a wrapper. -/
def toJson (w : SlotWrapper) : Json :=
  Json.record
    [("tag", some (.str w.tag)), ("class", Json.ofText? w.classes),
     ("conditionalModifier", w.modifier.map WidgetModifier.toJson)]

end SlotWrapper

/-! ## Slots -/

/-- The source that a specifier names; an empty one names none. -/
def Source.ofText? (text : String) : Option Source :=
  if text = "" then none else some (parse text)

namespace SlotChild

/-- Fields that only fragments have. -/
def chromeKeys : List String :=
  ["svg", "pageText", "icon", "metaText", "pageCondition", "iterate"]

/-- Fields that only slots have. -/
def slotKeys : List String :=
  ["source", "conditionalRegion", "conditionalModifier", "wrapper", "frontmatterCondition"]

/-- Whether a child can only stand in a slot: a reference to a fragment, or a container. -/
def isSlotContent : Json → Bool
  | .str s => (Text.behind? "chrome:" s).isSome
  | .obj _ => true
  | .arr _ => true
  | _ => false

/--
Whether the fields of an object describe a slot, and not a fragment. A `kind` decides. Without one,
fields that only fragments have speak for a fragment, fields and children that only slots have for a
slot, and a class without a label for a slot.
-/
def isSlot (fields : Entries Json) : Bool :=
  let present (key : String) : Bool := (fields.lookup key).any Json.isTruthy
  let byShape : Bool :=
    if chromeKeys.any present then false
    else
      slotKeys.any present ||
        (((fields.lookup "children").bind Json.asItems?).getD []).any isSlotContent ||
          (present "class" && !present "ref")
  match fields.lookup "kind" with
  | some (.str kind) =>
    if kind = "slot" then true
    else if kind = "chrome" ∨ kind = "entry" then false
    else byShape
  | _ => byShape

end SlotChild

namespace Slot

/-- The slot with the given fields and children. -/
def ofFields? (fields : Entries Json) (children : List SlotChild) : Option Slot := do
  let tag ← required decodeText fields "tag"
  let classes ← optional decodeText fields "class"
  let source ← optional decodeText fields "source"
  let conditional ← defaulted decodeBool false fields "conditional"
  let frontmatterCondition ← optional decodeText fields "frontmatterCondition"
  let conditionalRegion ← optional decodeText fields "conditionalRegion"
  let modifier ← optional RegionModifier.ofJson? fields "conditionalModifier"
  let wrapper ← optional SlotWrapper.ofJson? fields "wrapper"
  let attrs ← defaulted (decodeDict decodeText) ∅ fields "attrs"
  some { tag, classes, source := source.bind Source.ofText?, conditional, frontmatterCondition,
         conditionalRegion, modifier, wrapper, attrs, children }

mutual

/-- The child that a value describes. -/
def childOfJson? : Json → Option SlotChild
  | .str s =>
    match Text.behind? "chrome:" s with
    | some name => some (.chrome name)
    | none => some (.text s)
  | .obj fields =>
    if SlotChild.isSlot fields then
      (childrenOfFields? fields).bind fun cs => (ofFields? fields cs).map .slot
    else (Chrome.ofJson? (.obj fields)).map .entry
  | _ => none

/-- The children that a list of values describes. -/
def childrenOfItems? : List Json → Option (List SlotChild)
  | [] => some []
  | v :: rest => (childOfJson? v).bind fun c => (childrenOfItems? rest).map fun cs => c :: cs

/-- The children that an array describes. -/
def childrenOfJson? : Json → Option (List SlotChild)
  | .arr items => childrenOfItems? items
  | _ => none

/-- The children that the field of this name gives; there are none without it. -/
def childrenOfFields? : List (String × Json) → Option (List SlotChild)
  | [] => some []
  | (key, v) :: rest => if key = "children" then childrenOfJson? v else childrenOfFields? rest

end

/-- The slot that a value describes. -/
def ofJson? : Json → Option Slot :=
  decodeRecord
    ["tag", "class", "source", "conditional", "frontmatterCondition", "conditionalRegion",
      "conditionalModifier", "wrapper", "attrs", "children"]
    fun fields => (childrenOfFields? fields).bind (ofFields? fields)

mutual

/-- The fields that describe a slot. -/
def toFields : Slot → List (String × Option Json)
  | ⟨tag, classes, source, conditional, frontmatterCondition, conditionalRegion, modifier,
      wrapper, attrs, children⟩ =>
    [("tag", some (.str tag)),
     ("class", Json.ofText? classes),
     ("source", source.map fun s => .str s.render),
     ("conditional", Json.ifSet conditional),
     ("frontmatterCondition", Json.ofText? frontmatterCondition),
     ("conditionalRegion", Json.ofText? conditionalRegion),
     ("conditionalModifier", modifier.map RegionModifier.toJson),
     ("wrapper", wrapper.map SlotWrapper.toJson),
     ("attrs", Json.unlessEmpty Json.str attrs),
     ("children", if children.isEmpty then none else some (.arr (childrenToJson children)))]

/-- The value that describes a child; objects come with their kind. -/
def childToJson : SlotChild → Json
  | .chrome name => .str ("chrome:" ++ name)
  | .text s => .str s
  | .slot s => Json.record (toFields s ++ [("kind", some (.str "slot"))])
  | .entry c => Json.record (c.toFields ++ [("kind", some (.str "chrome"))])

/-- The values that describe the children of a slot. -/
def childrenToJson : List SlotChild → List Json
  | [] => []
  | c :: rest => childToJson c :: childrenToJson rest

end

/-- The value that describes a slot. -/
def toJson (s : Slot) : Json := Json.record s.toFields

end Slot

namespace SlotChild

/-- The child that a value describes. -/
def ofJson? : Json → Option SlotChild := Slot.childOfJson?

/-- The value that describes a child. -/
def toJson : SlotChild → Json := Slot.childToJson

/-! ## Misfits -/

/-- Whether a field of a slot, its children apart, has a value that can be read. -/
def fieldFits (key : String) (v : Json) : Bool :=
  let text? : Bool := (optional decodeText [(key, v)] key).isSome
  match key with
  | "tag" => (decodeText v).isSome
  | "class" | "source" | "frontmatterCondition" | "conditionalRegion" => text?
  | "conditional" => (decodeBool v).isSome
  | "conditionalModifier" => (optional RegionModifier.ofJson? [(key, v)] key).isSome
  | "wrapper" => (optional SlotWrapper.ofJson? [(key, v)] key).isSome
  | "attrs" => (decodeDict decodeText v).isSome
  | _ => true

mutual

/--
The value that is no child of a slot because it is neither a text nor an object, where a child is
refused for that reason first. A child is read front to back: a field or an item that is refused for
another reason hides what stands behind it.
-/
def misfit? : Json → Option Json
  | .str _ => none
  | .obj fields => if isSlot fields then misfitInFields? fields else none
  | v => some v

/-- The misfit in the fields of a slot. -/
def misfitInFields? : List (String × Json) → Option Json
  | [] => none
  | (key, v) :: rest =>
    if key = "children" then misfitInChildren? v
    else if fieldFits key v then misfitInFields? rest
    else none

/-- The misfit in an array of children. -/
def misfitInChildren? : Json → Option Json
  | .arr items => misfitInItems? items
  | _ => none

/-- The misfit in a list of children. -/
def misfitInItems? : List Json → Option Json
  | [] => none
  | v :: rest => if (ofJson? v).isSome then misfitInItems? rest else misfit? v

end

/-- What is said about a misfit. -/
def misfitMessage (v : Json) : String :=
  "expected a string or an object as slot child, found " ++ v.write

end SlotChild

/-! ## Layouts -/

namespace Layout

/-- The layout that a value describes. -/
def ofJson? : Json → Option Layout :=
  decodeRecord ["block", "tag", "behaviors", "slots", "chrome", "computed"] fun fields => do
    let block ← required decodeText fields "block"
    let tag ← optional decodeText fields "tag"
    let behaviors ← defaulted (decodeList decodeText) [] fields "behaviors"
    let slots ← defaulted (decodeDict Slot.ofJson?) ∅ fields "slots"
    let chrome ← defaulted (decodeDict Chrome.ofJson?) ∅ fields "chrome"
    let widgets ← defaulted (decodeDict Widget.ofJson?) ∅ fields "computed"
    some { block, tag, behaviors, slots, chrome, widgets }

/-- The value that describes a layout. -/
def toJson (l : Layout) : Json :=
  Json.record
    [("block", some (.str l.block)),
     ("tag", Json.ofText? l.tag),
     ("behaviors", Json.unlessNil Json.str l.behaviors),
     ("slots", some (.obj (l.slots.mapValues fun _ s => s.toJson).entries)),
     ("chrome", Json.unlessEmpty Chrome.toJson l.chrome),
     ("computed", Json.unlessEmpty Widget.toJson l.widgets)]

end Layout

end Livery
