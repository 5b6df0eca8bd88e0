import Livery.Text.Kebab
import Livery.Theme.Structure
import Livery.Trace

/-!
# Dressing documents

`Theme.transform` dresses a document: every element whose type the theme declares gets its classes,
data attributes and inline style, its children are labelled, wrapped and surrounded by synthesized
elements, and the `meta` children that carried its modifier values are taken out. Everything else
passes through.

The work on one component is split in two around the walk of its children. `Rune.prepared` makes the
list of nodes that is walked, and `Theme.dressed` puts the root together from the walked nodes.
Synthesized elements are walked like all others and may be components themselves, so a theme can
ask for elements inside elements without end. `Theme.walk` therefore takes the depth it may reach,
and `Theme.reach` is a depth that every walk that ends stays below.
-/

namespace Livery

open Text (nonEmpty?)

/-! ## The parts of a component -/

namespace Rune

/-- The value that a modifier has in an element: what its source gives, or else its default. -/
def modifierValue? (e : Element) (name : String) (m : ModifierSpec) : Option String :=
  let found := match m.source with
    | .metaChild => e.readMeta? name
    | .attribute => e.attr? name
  nonEmpty? (found.or m.default)

/-- The modifiers that have a value in an element, in declaration order. -/
def resolve (r : Rune) (e : Element) : Dict String :=
  Dict.ofList (r.modifiers.entries.filterMap fun p =>
    (modifierValue? e p.1 p.2).map fun v => (p.1, v))

/-- The suffix for components inside a component of type `parent`. -/
def contextSuffix? (r : Rune) (parent : Option String) : Option String :=
  nonEmpty? (parent.bind r.contextModifiers.get?)

/-- The classes of a component, where `block` is its block class. -/
def classes (r : Rune) (block : String) (modifiers : Dict String) (parent : Option String)
    (authored : Option String) : List String :=
  let suffixes := modifiers.values ++ (r.contextSuffix? parent).toList ++ r.staticModifiers
  (block :: suffixes.map (fun s => block ++ "--" ++ s) ++ authored.toList).filter (· ≠ "")

/-- A template with the value in its first place, which is an empty pair of braces. -/
def filled (value : List Char) : List Char → List Char
  | '\x7b' :: '\x7d' :: rest => value ++ rest
  | c :: rest => c :: filled value rest
  | [] => []

/-- The part of the inline style that a modifier value gives. -/
def stylePart (value : String) : StyleSpec → String
  | .property name => name ++ ": " ++ value
  | .template name text => name ++ ": " ++ String.ofList (filled value.toList text.toList)

/-- The inline style of a component: its own, then the parts of the resolved modifiers. -/
def style (r : Rune) (e : Element) (modifiers : Dict String) : String :=
  let own := (nonEmpty? (e.attr? "style")).toList
  let parts := r.styles.entries.filterMap fun p =>
    (modifiers.get? p.1).map fun v => stylePart v p.2
  "; ".intercalate (own ++ parts)

/-- The data attribute of a modifier. -/
def dataKey (name : String) : String := "data-" ++ Text.kebab name

/-- The attributes of a component; where two of them meet, the later one wins. -/
def rootAttrs (r : Rune) (type block : String) (parent : Option String) (e : Element) : Attrs :=
  let modifiers := r.resolve e
  let classText := " ".intercalate (r.classes block modifiers parent (e.attr? "class"))
  let style := r.style e modifiers
  e.attrs.extend
    (modifiers.entries.map (fun p => (dataKey p.1, p.2)) ++
      [("class", classText), ("data-rune", Text.lower type)] ++ r.rootAttributes.entries ++
      if style = "" then [] else [("style", style)])

/-- A child with the label that its tag name or its property calls for, unless it has one. -/
def labelled (r : Rune) : Node → Node
  | .element e =>
    let label := (r.autoLabel.get? e.name).or
      ((e.attr? "property").bind fun property => r.autoLabel.get? property)
    match nonEmpty? label, nonEmpty? e.label? with
    | some label, none => .element (e.withAttr labelKey label)
    | _, _ => .element e
  | n => n

/-- The synthesized elements in front of the content (`before`), or those behind it. -/
def synthesized (r : Rune) (modifiers : Dict String) (before : Bool) : List Node :=
  r.scaffold.entries.filterMap fun p =>
    if p.2.before = before then (p.2.build modifiers p.1).map .element else none

/-- The children, inside the content wrapper if there is one. -/
def wrapped (r : Rune) (children : List Node) : List Node :=
  match r.contentWrapper with
  | some w => [.element ⟨w.tag, (∅ : Attrs).insert labelKey w.label, children⟩]
  | none => children

/-- Whether a node is a `meta` element with the value of a declared modifier. -/
def consumes (r : Rune) : Node → Bool
  | .element e =>
    e.name = "meta" &&
      match nonEmpty? (e.attr? "property") with
      | some property => r.modifiers.contains property
      | none => false
  | _ => false

end Rune

/-! ## Element classes -/

namespace Theme

/-- The block class of a rune. -/
def blockClass (t : Theme) (r : Rune) : String := t.classPrefix ++ "-" ++ r.block

mutual

/--
A node with the element classes of a block on it and along every chain of labelled elements below
it. The chain ends at elements without a label and in front of components.
-/
def marked (t : Theme) (block : String) : Node → Node
  | .element e@⟨name, attrs, children⟩ =>
    if t.isComponent e then .element e
    else
      match nonEmpty? e.label? with
      | none => .element e
      | some label =>
        let own := block ++ "__" ++ label
        let classText := match nonEmpty? (e.attr? "class") with
          | some authored => own ++ " " ++ authored
          | none => own
        .element ⟨name, attrs.insert "class" classText, markedChildren t block children⟩
  | n => n

/-- The children of a labelled element, where only elements are looked at. -/
def markedChildren (t : Theme) (block : String) : List Node → List Node
  | [] => []
  | n :: rest => marked t block n :: markedChildren t block rest

end

/-! ## The walk -/

/--
What is walked below a component: its labelled children inside the content wrapper, between the
synthesized elements, all with the element classes of its block.
-/
def prepared (t : Theme) (r : Rune) (e : Element) : List Node :=
  let modifiers := r.resolve e
  (r.synthesized modifiers true ++ r.wrapped (e.children.map r.labelled) ++
    r.synthesized modifiers false).map (t.marked (t.blockClass r))

/-- The component with its walked children, in which the consumed `meta` elements are left out. -/
def dressed (t : Theme) (type : String) (r : Rune) (parent : Option String) (e : Element)
    (walked : List Node) : Element :=
  let out : Element :=
    { name := e.name
      attrs := r.rootAttrs type (t.blockClass r) parent e
      children := walked.filter fun n => !r.consumes n }
  match r.hook with
  | some hook => hook out ⟨r.resolve e, parent⟩
  | none => out

/--
The dressed form of a node inside a component of type `parent`, if the walk stays above the given
depth.
-/
def walk (t : Theme) : Nat → Option String → Node → Option Node
  | 0, _, _ => none
  | depth + 1, parent, .array nodes => (nodes.mapM (walk t depth parent)).map .array
  | depth + 1, parent, .element e =>
    match t.runeOf? e with
    | some (type, r) =>
      ((t.prepared r e).mapM (walk t depth (some type))).map fun walked =>
        .element (t.dressed type r parent e walked)
    | none =>
      (e.children.mapM (walk t depth parent)).map fun children => .element { e with children }
  | _ + 1, _, n => some n

/-! ## The depth of a walk -/

end Theme

/-- The sum of a list of numbers. -/
def total (l : List Nat) : Nat := l.foldr (· + ·) 0

mutual

/-- The number of texts that an entry can hand on, its nested entries included. -/
def StructureEntry.weight : StructureEntry → Nat
  | ⟨_, _, _, _, _, _, _, _, _, _, attrs, children⟩ =>
    attrs.size + 2 + StructureEntry.childWeight children

/-- The weight of the children of an entry. -/
def StructureEntry.childWeight : List StructureChild → Nat
  | [] => 0
  | .text _ :: rest => childWeight rest + 1
  | .entry e :: rest => weight e + childWeight rest

end

namespace Theme

/-- The number of texts that a theme can bring into a document. -/
def weight (t : Theme) : Nat :=
  total (t.runes.values.map fun r =>
    r.modifiers.size + r.autoLabel.size + 2 + total (r.scaffold.values.map StructureEntry.weight))

/-- The greatest number of modifiers of a rune. -/
def modifierCount (t : Theme) : Nat :=
  (t.runes.values.map fun r => r.modifiers.size).foldl max 0

/--
A depth that every walk that ends stays below. The elements synthesized for a component depend on
its entries and on the values of its modifiers alone, and these values are texts of the theme or of
the document. With `w` such texts and at most `m` modifiers there are no more than
`(w + 1) ^ (m + 1)` different groups of synthesized elements, each of a depth below `2 * (w + 1)`. A
walk that goes deeper repeats a group inside itself, and so has no end.
-/
def reach (t : Theme) (n : Node) : Nat :=
  let texts := total (n.elements.map fun e => e.attrs.size + 1)
  let w := t.weight + texts + n.depth
  4 * Nat.pow (w + 1) (t.modifierCount + 2)

/--
The dressed form of a document inside a component of type `within`, if any; `none` if the theme
synthesizes elements inside each other without end.
-/
def transform (t : Theme) (within : Option String) (n : Node) : Option Node :=
  t.walk (t.reach n) within n

/-! ## Traces -/

/-- The scopes of a walk: one for each component, nested like the components. -/
def scopes (t : Theme) : Nat → Node → List Action
  | 0, _ => []
  | depth + 1, .array nodes => nodes.flatMap (scopes t depth)
  | depth + 1, .element e =>
    match t.runeOf? e with
    | some (type, r) => [.scope ⟨"rune", some type⟩ ((t.prepared r e).flatMap (scopes t depth))]
    | none => e.children.flatMap (scopes t depth)
  | _ + 1, _ => []

/-- The scope of dressing a document. -/
def transformScope (t : Theme) (n : Node) : Action :=
  .scope ⟨"identity transform", none⟩ (t.scopes (t.reach n) n)

end Theme

end Livery
