import Livery.Calendar.Format
import Livery.Layout.Source
import Livery.Page.Basic

/-!
# Layouts

A `Layout` declares how a page is put together: its slots in output order, the fragments that slots
can refer to (`Chrome`), and the widgets that are derived from page data (`Widget`). A slot may
contain text, references to fragments, fragments of its own and further slots.

A layout may carry a hook: a function that sees the composed page last and may replace it.
-/

namespace Livery

/-! ## Fragments -/

/-- The value of an attribute of a fragment. -/
inductive ChromeAttr
  | literal (s : String)
  /-- The text of a value of the page, by its path. -/
  | fromPage (path : String)
deriving DecidableEq

/-- A child for every item of an array of the page. -/
structure Iteration where
  /-- The path of the array. -/
  source : String
  tag : String
  classes : Option String := none
deriving DecidableEq

mutual

/-- A fragment whose content is bound to page data. -/
structure Chrome where
  tag : String
  label : Option String := none
  attrs : Dict ChromeAttr := ∅
  /-- Markup that is emitted as it is. -/
  markup : Option String := none
  /-- The path of the value that is the text of the fragment. -/
  pageText : Option String := none
  /-- The path of the value that has to be present. -/
  pageCondition : Option String := none
  /-- A modifier gate; there are no modifiers in a layout, so the fragment is never built. -/
  condition : Option String := none
  /-- How the text is formatted if it is a date. -/
  dateFormat : Option DateFormat := none
  textPrefix : Option String := none
  textSuffix : Option String := none
  iteration : Option Iteration := none
  children : List ChromeChild := []

/-- A child of a fragment. -/
inductive ChromeChild
  | text (s : String)
  | entry (c : Chrome)

end

instance : Inhabited Chrome := ⟨{ tag := "" }⟩

/-! ## Widgets -/

/-- The kinds of derived widgets. -/
inductive WidgetKind
  | breadcrumb
  /-- The table of contents. -/
  | toc
  | prevNext
  | versionSwitcher
deriving DecidableEq

/-- The heading levels that a table of contents lists. -/
structure TocOptions where
  minLevel : Option Nat := none
  maxLevel : Option Nat := none
deriving DecidableEq

/-- When a widget is shown at all. -/
structure Visibility where
  /-- The front matter key that hides the widget if its value is `false`. -/
  toggle : Option String := none
  /-- The number of entries that a table of contents needs. -/
  minCount : Option Nat := none
deriving DecidableEq

/-- A widget that is derived from page data. -/
structure Widget where
  kind : WidgetKind
  /-- The data that the widget is derived from. -/
  source : String := ""
  options : Option TocOptions := none
  visibility : Option Visibility := none
deriving DecidableEq

/-! ## Slots -/

/-- A class modifier for pages that have a region. -/
structure RegionModifier where
  region : String
  modifier : String
deriving DecidableEq

/-- A class modifier for pages on which a widget is shown. -/
structure WidgetModifier where
  widget : String
  modifier : String
deriving DecidableEq

/-- An element around the content of a slot. -/
structure SlotWrapper where
  tag : String
  classes : Option String := none
  modifier : Option WidgetModifier := none
deriving DecidableEq

mutual

/-- A place in a layout. -/
structure Slot where
  tag : String
  classes : Option String := none
  source : Option Source := none
  /-- Whether the slot is left out if its source gives nothing. -/
  conditional : Bool := false
  /-- The front matter key whose value has to be present. -/
  frontmatterCondition : Option String := none
  /-- The region that has to exist. -/
  conditionalRegion : Option String := none
  modifier : Option RegionModifier := none
  wrapper : Option SlotWrapper := none
  attrs : Dict String := ∅
  /-- What follows the content of the source. -/
  children : List SlotChild := []

/-- A child of a slot. -/
inductive SlotChild
  /-- A fragment of the layout, by its name. -/
  | chrome (name : String)
  | text (s : String)
  | slot (s : Slot)
  /-- A fragment of its own. -/
  | entry (c : Chrome)

end

instance : Inhabited Slot := ⟨{ tag := "" }⟩

/-! ## Layouts -/

/-- A function that sees a composed page last and may replace it. -/
abbrev LayoutHook := Element → Page → Element

/-- The layout of a page. -/
structure Layout where
  /-- The name of the layout. -/
  block : String
  /-- The tag of the root. -/
  tag : Option String := none
  /-- The behaviours that a client attaches to the page. -/
  behaviors : List String := []
  slots : Dict Slot := ∅
  /-- The fragments that slots refer to. -/
  chrome : Dict Chrome := ∅
  /-- The widgets that slots refer to. -/
  widgets : Dict Widget := ∅
  hook : Option LayoutHook := none

instance : Inhabited Layout := ⟨{ block := "" }⟩

namespace Layout

/-- The layout with one more slot. -/
def withSlot (l : Layout) (name : String) (s : Slot) : Layout :=
  { l with slots := l.slots.insert name s }

/-- The layout with one more fragment. -/
def withChrome (l : Layout) (name : String) (c : Chrome) : Layout :=
  { l with chrome := l.chrome.insert name c }

/-- The layout with one more widget. -/
def withWidget (l : Layout) (name : String) (w : Widget) : Layout :=
  { l with widgets := l.widgets.insert name w }

/-- The layout with a hook. -/
def withHook (l : Layout) (hook : LayoutHook) : Layout := { l with hook := some hook }

end Layout

namespace Slot

/-- The slot with a source, by its specifier; an empty specifier is none. -/
def withSource (s : Slot) (text : String) : Slot :=
  { s with source := if text = "" then none else some (Source.parse text) }

/-- The slot with one more child. -/
def withChild (s : Slot) (c : SlotChild) : Slot := { s with children := s.children ++ [c] }

end Slot

namespace Chrome

/-- The fragment with one more attribute. -/
def withAttr (c : Chrome) (key : String) (value : ChromeAttr) : Chrome :=
  { c with attrs := c.attrs.insert key value }

end Chrome

end Livery
