import Livery.Text.Affix
import Livery.Theme.TextTransform

/-!
# Synthesized elements

`StructureEntry.build` makes the element that an entry describes from the resolved modifiers of a
component, unless one of the entry's gates is shut. An entry makes its element in one of three ways:
empty, as the place of an icon, with the text of a modifier value, or with children of its own.
-/

namespace Livery

open Text (nonEmpty?)

namespace StructureEntry

/-- Whether a modifier has a value. -/
def hasValue (modifiers : Dict String) (name : String) : Bool :=
  (nonEmpty? (modifiers.get? name)).isSome

/--
Whether the gates of an entry are open: its `condition`, if that is not empty, has a value, and one
of its `conditionAny` has a value, if those are given.
-/
def admits (modifiers : Dict String) (e : StructureEntry) : Bool :=
  (match nonEmpty? e.condition with
    | some name => hasValue modifiers name
    | none => true) &&
  (match e.conditionAny with
    | some names => names.any (hasValue modifiers)
    | none => true)

/-- The value of an attribute. -/
def attrValue (modifiers : Dict String) : AttrSource → String
  | .literal s => s
  | .fromModifier name => (modifiers.get? name).getD ""

/-- The attributes of the element: its label, then the entry's own. -/
def builtAttrs (modifiers : Dict String) (e : StructureEntry) (name : String) : Attrs :=
  ((∅ : Attrs).insert labelKey (e.label.getD name)).extend
    (e.attrs.mapValues fun _ v => attrValue modifiers v).entries

/-- The text that an entry with `metaText` shows. -/
def builtText (modifiers : Dict String) (e : StructureEntry) (name : String) : String :=
  let value := (modifiers.get? name).getD ""
  let text := match e.transform with
    | some t => t.apply value
    | none => value
  e.textPrefix.getD "" ++ text ++ e.textSuffix.getD ""

mutual

/-- The element of an entry that is declared under `name`, if its gates are open. -/
def build (modifiers : Dict String) : StructureEntry → String → Option Element
  | e@⟨tag, _, _, _, _, icon, metaText, _, _, _, _, children⟩, name =>
    if e.admits modifiers then
      some
        { name := tag
          attrs := e.builtAttrs modifiers name
          children :=
            match icon, nonEmpty? metaText with
            | some _, _ => []
            | none, some key => [.text (e.builtText modifiers key)]
            | none, none => buildAll modifiers children }
    else none

/-- The nodes of the children of an entry. -/
def buildAll (modifiers : Dict String) : List StructureChild → List Node
  | [] => []
  | .text s :: rest => .text s :: buildAll modifiers rest
  | .entry e :: rest =>
    ((build modifiers e (e.label.getD "")).map .element).toList ++ buildAll modifiers rest

end

end StructureEntry

end Livery
