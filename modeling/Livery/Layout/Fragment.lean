import Livery.Layout.Config
import Livery.Page.Lookup

/-!
# Fragments

`Chrome.build` makes the element that a fragment describes from the data of a page, unless the page
lacks what the fragment asks for. A fragment gets its content in one of four ways: from markup of
its own, from a text of the page, from the items of an array of the page, or from its children. Only
the first is marked as markup, so that no text of a page is ever emitted without being escaped.
-/

namespace Livery

/-- The attribute of elements whose text is emitted as it is. -/
def rawMarkupKey : String := "data-raw-html"

/-- The child for an item of an array. -/
def Iteration.child (i : Iteration) (item : Json) : Node :=
  .element
    { name := i.tag
      attrs := Dict.ofList ((i.classes.map fun s => ("class", s)).toList)
      children := [.text item.display] }

namespace Chrome

/-- Whether a page has what a fragment asks for; one with a modifier gate is never admitted. -/
def admits (c : Chrome) (page : Page) : Bool :=
  (c.pageCondition.all page.has) && (Text.nonEmpty? c.condition).isNone

/-- The value of an attribute. -/
def attrValue (page : Page) : ChromeAttr → String
  | .literal s => s
  | .fromPage path => page.lookupText path

/-- The attributes of the element: its label, unless that is empty, then the fragment's own. -/
def builtAttrs (c : Chrome) (name : String) (page : Page) : Attrs :=
  (Dict.ofList (if name = "" then [] else [(labelKey, name)])).extend
    (c.attrs.mapValues fun _ v => attrValue page v).entries

/-- The text of a value of the page as the fragment shows it. -/
def shownText (c : Chrome) (value : String) : String :=
  let text := match c.dateFormat with
    | some format => if value = "" then "" else format.applyText value
    | none => value
  c.textPrefix.getD "" ++ text ++ c.textSuffix.getD ""

/-- The children for the items of an array; anything but an array has none. -/
def iterated (i : Iteration) (page : Page) : List Node :=
  match page.lookup? i.source with
  | some (.arr items) => items.map i.child
  | _ => []

mutual

/-- The element that a fragment describes, labelled with `name`, on a page. -/
def build (page : Page) : Chrome → String → Option Element
  | c@⟨tag, _, _, markup, pageText, _, _, _, _, _, iteration, children⟩, name =>
    if c.admits page then
      let attrs := c.builtAttrs name page
      some <|
        match Text.nonEmpty? markup with
        | some text => ⟨tag, attrs.insert rawMarkupKey "true", [.text text]⟩
        | none =>
          match Text.nonEmpty? pageText with
          | some path => ⟨tag, attrs, [.text (c.shownText (page.lookupText path))]⟩
          | none =>
            match iteration with
            | some i => ⟨tag, attrs, iterated i page⟩
            | none => ⟨tag, attrs, buildAll page children⟩
    else none

/-- The nodes of the children of a fragment. -/
def buildAll (page : Page) : List ChromeChild → List Node
  | [] => []
  | .text s :: rest => .text s :: buildAll page rest
  | .entry c :: rest =>
    ((build page c (c.label.getD "")).map .element).toList ++ buildAll page rest

end

end Chrome

end Livery
