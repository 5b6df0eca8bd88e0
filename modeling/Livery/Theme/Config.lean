import Livery.Document.Node

/-!
# Themes

A `Theme` declares, for each component type, how the instances of that type are dressed: a `Rune`.
It names the block of the component, says where the values of its modifiers are read from, which
labels its children get, which elements are synthesized around its content (`StructureEntry`), and
how modifier values become inline styles. All maps keep their declaration order, which decides the
order of classes and synthesized elements.

A rune may carry a hook: a function that sees the dressed element last and may replace it.
-/

namespace Livery

/-- Where the value of a modifier is read from. -/
inductive ModifierSource
  /-- The content of a `meta` child with the modifier's name as its property. -/
  | metaChild
  /-- The attribute of the modifier's name. -/
  | attribute
deriving DecidableEq

/-- How a modifier gets its value. -/
structure ModifierSpec where
  source : ModifierSource := .metaChild
  /-- The value that stands in for a missing one. -/
  default : Option String := none
deriving DecidableEq

/-- The element around the content of a component. -/
structure ContentWrapper where
  tag : String
  /-- The wrapper's label. -/
  label : String
deriving DecidableEq

/-- The value of an attribute of a synthesized element. -/
inductive AttrSource
  | literal (s : String)
  /-- The value of a modifier, or the empty text. -/
  | fromModifier (name : String)
deriving DecidableEq

/-- An icon, by group and variant. -/
structure IconRef where
  group : String
  variant : String
deriving DecidableEq

/-- A change of a modifier value before it becomes text. -/
inductive TextTransform
  | duration
  | uppercase
  | capitalize
  /-- A name without a transform: the text stays as it is. -/
  | unknown
deriving DecidableEq

/-- How a modifier value becomes an inline style. -/
inductive StyleSpec
  /-- The value of a property. -/
  | property (name : String)
  /-- A property whose value is a template with a place for the modifier's value. -/
  | template (name text : String)
deriving DecidableEq

mutual

/-- A synthesized element. -/
structure StructureEntry where
  tag : String
  /-- The label, if it is not the name under which the entry is declared. -/
  label : Option String := none
  /-- Whether the element stands in front of the content. -/
  before : Bool := false
  /-- The modifier that has to have a value. -/
  condition : Option String := none
  /-- Modifiers of which one has to have a value. -/
  conditionAny : Option (List String) := none
  /-- The icon that styling puts into the otherwise empty element. -/
  icon : Option IconRef := none
  /-- The modifier whose value is the text of the element. -/
  metaText : Option String := none
  transform : Option TextTransform := none
  textPrefix : Option String := none
  textSuffix : Option String := none
  attrs : Dict AttrSource := ∅
  children : List StructureChild := []

/-- A child of a synthesized element. -/
inductive StructureChild
  | text (s : String)
  | entry (e : StructureEntry)

end

instance : Inhabited StructureEntry := ⟨{ tag := "" }⟩

/-- What a hook sees besides the element. -/
structure RuneContext where
  /-- The resolved modifiers, in declaration order. -/
  modifiers : Dict String := ∅
  /-- The type of the nearest enclosing component. -/
  parent : Option String := none

/-- A function that sees a dressed component last and may replace it. -/
abbrev RuneHook := Element → RuneContext → Element

/-- How the instances of one component type are dressed. -/
structure Rune where
  /-- The name of the block, without the theme's prefix. -/
  block : String
  /-- The component type that this one is grouped under in editors. -/
  parent : Option String := none
  modifiers : Dict ModifierSpec := ∅
  /-- Suffixes of the modifier classes inside components of given types. -/
  contextModifiers : Dict String := ∅
  /-- Suffixes of modifier classes that every instance has. -/
  staticModifiers : List String := []
  /-- Labels of children, by tag name or property. -/
  autoLabel : Dict String := ∅
  contentWrapper : Option ContentWrapper := none
  /-- The synthesized elements, by name. -/
  scaffold : Dict StructureEntry := ∅
  /-- The inline styles, by modifier. -/
  styles : Dict StyleSpec := ∅
  /-- Attributes of the root that override what is computed for it. -/
  rootAttributes : Dict String := ∅
  hook : Option RuneHook := none

instance : Inhabited Rune := ⟨{ block := "" }⟩

/-- Icon markup, by group and variant. -/
abbrev Icons := Dict (Dict String)

/-- The configuration of a theme. -/
structure Theme where
  /-- The text in front of every block name: with `rf`, the block `hint` has the class `rf-hint`. -/
  classPrefix : String
  /-- The text in front of the names of custom properties. -/
  tokenPrefix : String := ""
  icons : Icons := ∅
  /-- How components are dressed, by component type. -/
  runes : Dict Rune := ∅

namespace Theme

/-- The theme with one more component type. -/
def withRune (t : Theme) (name : String) (r : Rune) : Theme :=
  { t with runes := t.runes.insert name r }

/-- The theme with a hook for a declared component type; an undeclared type stays undeclared. -/
def withHook (t : Theme) (name : String) (hook : RuneHook) : Theme :=
  match t.runes.get? name with
  | some r => t.withRune name { r with hook := some hook }
  | none => t

/-- The component type of an element and how it is dressed, if the theme declares the type. -/
def runeOf? (t : Theme) (e : Element) : Option (String × Rune) :=
  e.typeOf?.bind fun name => (t.runes.get? name).map fun r => (name, r)

/-- Whether an element is an instance of a declared type. -/
def isComponent (t : Theme) (e : Element) : Bool := (t.runeOf? e).isSome

end Theme

namespace Rune

/-- The rune with one more modifier. -/
def withModifier (r : Rune) (name : String) (spec : ModifierSpec) : Rune :=
  { r with modifiers := r.modifiers.insert name spec }

/-- The rune with one more context modifier. -/
def withContextModifier (r : Rune) (parent suffix : String) : Rune :=
  { r with contextModifiers := r.contextModifiers.insert parent suffix }

/-- The rune with a content wrapper. -/
def withContentWrapper (r : Rune) (tag label : String) : Rune :=
  { r with contentWrapper := some ⟨tag, label⟩ }

/-- The rune with one more synthesized element. -/
def withStructure (r : Rune) (name : String) (e : StructureEntry) : Rune :=
  { r with scaffold := r.scaffold.insert name e }

/-- The rune with a hook. -/
def withHook (r : Rune) (hook : RuneHook) : Rune := { r with hook := some hook }

end Rune

namespace StructureEntry

/-- The entry with one more attribute. -/
def withAttr (e : StructureEntry) (key : String) (value : AttrSource) : StructureEntry :=
  { e with attrs := e.attrs.insert key value }

/-- The entry with one more child. -/
def withChild (e : StructureEntry) (c : StructureChild) : StructureEntry :=
  { e with children := e.children ++ [c] }

end StructureEntry

end Livery
