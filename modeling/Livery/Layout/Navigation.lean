import Livery.Document.Node
import Livery.Text.Split

/-!
# Navigation

A navigation is a forest of elements, in which items are elements of the type `NavItem` with a
`span` child that holds their slug, and groups are elements of the type `NavGroup` with a heading.
`navItems` lists the items in document order, each with the title of the group around it.
-/

namespace Livery

/-- An item of a navigation. -/
structure NavItem where
  slug : String
  /-- The title of the innermost group around the item, empty if there is none. -/
  group : String
deriving DecidableEq

namespace Navigation

/-- The type of groups. -/
def groupType : String := "NavGroup"

/-- The type of items. -/
def itemType : String := "NavItem"

/-- The slug of an item. -/
def slug? (e : Element) : Option String :=
  (e.childElements.find? fun c => c.name = "span" && c.attr? "property" = some "slug").map
    Element.textContent

/-- The tag names of headings. -/
def headingTags : List String := ["h1", "h2", "h3", "h4", "h5", "h6"]

/-- The title of a group: the text of its first heading. -/
def title (e : Element) : String :=
  ((e.childElements.find? fun c => headingTags.contains c.name).map Element.textContent).getD ""

mutual

/-- The items at and below a node inside a group with the given title. -/
def items (group : String) : Node → List NavItem
  | .element e@⟨_, _, children⟩ =>
    if e.typeOf? = some groupType then itemsAll (title e) children
    else if e.typeOf? = some itemType then (slug? e).toList.map fun slug => ⟨slug, group⟩
    else itemsAll group children
  | _ => []

/-- The items of a list of nodes. -/
def itemsAll (group : String) : List Node → List NavItem
  | [] => []
  | n :: rest => items group n ++ itemsAll group rest

end

/-- The slugs of a navigation, in document order. -/
def slugs (nav : List Node) : List String := (itemsAll "" nav).map (·.slug)

/-- The slug of a page: the last segment of its URL that is not empty. -/
def slugOf (url : String) : String :=
  (((Text.split '/' url).filter (· ≠ "")).getLast?).getD ""

/--
The title of the group that a page is in. Of the items with the slug of the page that are in a group
with a title, the last one counts.
-/
def category? (nav : List Node) (url : String) : Option String :=
  (((itemsAll "" nav).filter fun i => i.slug = slugOf url && i.group ≠ "").getLast?).map (·.group)

end Navigation

end Livery
