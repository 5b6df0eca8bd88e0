import Livery.Layout.Fragment
import Livery.Layout.Widget
import Livery.Trace

/-!
# Composing pages

`Layout.compose` puts a page together: it resolves the widgets of the layout, builds every slot in
declaration order (`Slot.build`) and collects the slots in a root element. References to fragments
and widgets that the layout does not declare give nothing.
-/

namespace Livery

namespace Layout

/-- The widgets of a layout on a page; a widget that is left out has no element. -/
def resolved (l : Layout) (page : Page) (pre : String) : Dict (Option Element) :=
  l.widgets.mapValues fun _ w => w.resolve page pre

/-- The fragment of a name, labelled with its own label or else with the name. -/
def chromeNodes (l : Layout) (page : Page) (name : String) : List Node :=
  (((l.chrome.get? name).bind fun c => c.build page (c.label.getD name)).map .element).toList

/-- The content that a source gives. -/
def sourceNodes (l : Layout) (page : Page) (widgets : Dict (Option Element)) :
    Source → List Node
  | .content => page.renderable.toList
  | .region name => ((page.regions.get? name).map Region.content).getD []
  | .cloneRegion name => ((page.regions.get? name).map Region.content).getD []
  | .computed name => (((widgets.get? name).join).map .element).toList
  | .chrome name => l.chromeNodes page name
  | .unknown _ => []

/-- A class text with a modified copy of itself behind it; an empty one stays empty. -/
def modified (classes modifier : String) : String :=
  if classes = "" then "" else classes ++ " " ++ classes ++ "--" ++ modifier

end Layout

namespace Slot

/-- Whether a page has what a slot asks for. -/
def admits (s : Slot) (page : Page) : Bool :=
  s.frontmatterCondition.all page.flag && s.conditionalRegion.all page.regions.contains

/-- The classes of a slot on a page. -/
def builtClasses (s : Slot) (page : Page) : String :=
  let classes := s.classes.getD ""
  match s.modifier with
  | some m => if page.regions.contains m.region then Layout.modified classes m.modifier else classes
  | none => classes

/-- An attribute list with a class, unless that is empty. -/
def classAttrs (classes : String) : Attrs :=
  Dict.ofList (if classes = "" then [] else [("class", classes)])

/-- The content inside the wrapper, if there is one. -/
def wrapped (widgets : Dict (Option Element)) (content : List Node) :
    Option SlotWrapper → List Node
  | none => content
  | some w =>
    let classes := w.classes.getD ""
    let classes := match w.modifier with
      | some m =>
        if (widgets.get? m.widget).join.isSome then Layout.modified classes m.modifier else classes
      | none => classes
    [.element ⟨w.tag, classAttrs classes, content⟩]

mutual

/-- The element of a slot, unless the slot is left out. -/
def build (l : Layout) (page : Page) (widgets : Dict (Option Element)) : Slot → Option Element
  | s@⟨tag, _, source, conditional, _, _, _, wrapper, attrs, children⟩ =>
    let own := match source with
      | some source => l.sourceNodes page widgets source
      | none => []
    if !s.admits page ∨ (source.isSome ∧ conditional ∧ own.isEmpty) then none
    else
      some
        { name := tag
          attrs := (classAttrs (s.builtClasses page)).extend attrs.entries
          children := wrapped widgets (own ++ buildAll l page widgets children) wrapper }

/-- The nodes of the children of a slot. -/
def buildAll (l : Layout) (page : Page) (widgets : Dict (Option Element)) :
    List SlotChild → List Node
  | [] => []
  | .chrome name :: rest => l.chromeNodes page name ++ buildAll l page widgets rest
  | .text s :: rest => .text s :: buildAll l page widgets rest
  | .slot s :: rest =>
    ((build l page widgets s).map .element).toList ++ buildAll l page widgets rest
  | .entry c :: rest =>
    ((c.build page (c.label.getD "")).map .element).toList ++ buildAll l page widgets rest

end

end Slot

namespace Layout

/-- The attributes of the root. -/
def rootAttrs (l : Layout) (pre : String) : Attrs :=
  Dict.ofList
    ([("data-layout", l.block), ("class", pre ++ "-layout-" ++ l.block)] ++
      if l.behaviors.isEmpty then []
      else [("data-layout-behaviors", " ".intercalate l.behaviors)])

/-- The composed page. -/
def compose (l : Layout) (page : Page) (pre : String) : Element :=
  let widgets := l.resolved page pre
  let root : Element :=
    { name := l.tag.getD "div"
      attrs := l.rootAttrs pre
      children := l.slots.values.filterMap fun s => (s.build l page widgets).map .element }
  match l.hook with
  | some hook => hook root page
  | none => root

/-- The scope of composing a page. -/
def composeScope (l : Layout) : Action := .scope ⟨"layout transform", some l.block⟩ []

end Layout

end Livery
