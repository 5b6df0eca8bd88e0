import Livery.Check.Finding

/-!
# Checking themes

`Check.theme` checks the shape of a theme and of everything in it. Synthesized elements are also
checked against the modifiers of their component type and against the icon groups of the theme, and
their text transforms have to be known ones.
-/

namespace Livery.Check

/-- The names of the text transforms. -/
def transformNames : List String := ["duration", "uppercase", "capitalize"]

/-- A reference to a modifier. -/
def modifierReference (modifiers : List String) (name : String) : List Finding :=
  if modifiers.contains name then [] else dangling (.modifier name modifiers)

/-- A check of a text. -/
def textThen (check : String → List Finding) : Json → List Finding
  | .str s => check s
  | _ => unmet .text

/-- The names of modifiers of which one has to have a value; items are reported at the array. -/
def conditionAny (modifiers : List String) (items : List Json) : List Finding :=
  items.flatMap fun v =>
    match v with
    | .str name => modifierReference modifiers name
    | _ => unmet .textItems

/-- The icon of a synthesized element. -/
def icon (groups : List String) (fields : Entries Json) : List Finding :=
  field fields "group" (fun v => match v with
    | some (.str name) => if groups.contains name then [] else dangling (.iconGroup name)
    | _ => unmet .text) ++
  field fields "variant" (demand .text)

/-- The fields of a synthesized element, its children apart. -/
def structureFields (modifiers groups : List String) (fields : Entries Json) : List Finding :=
  requiredText fields "tag" ++
  given fields "condition" (textThen (modifierReference modifiers)) ++
  given fields "conditionAny" (array .textArray (conditionAny modifiers)) ++
  given fields "transform" (textThen fun name =>
    if transformNames.contains name then [] else dangling (.transform name)) ++
  given fields "icon" (object (.objectWith "group and variant") (icon groups))

mutual

/-- A synthesized element, at any depth. -/
def structureEntry (modifiers groups : List String) : Json → List Finding
  | .obj fields =>
    structureFields modifiers groups fields ++ structureChildrenField modifiers groups fields
  | _ => unmet .object

/-- The children among the fields of a synthesized element. -/
def structureChildrenField (modifiers groups : List String) :
    List (String × Json) → List Finding
  | [] => []
  | (key, v) :: rest =>
    if key = "children" then inside (.field key) (structureChildren modifiers groups v)
    else structureChildrenField modifiers groups rest

/-- The children of a synthesized element. -/
def structureChildren (modifiers groups : List String) : Json → List Finding
  | .arr items => structureItems modifiers groups 0 items
  | _ => unmet .array

/-- Children from an index on; texts are always fine. -/
def structureItems (modifiers groups : List String) : Nat → List Json → List Finding
  | _, [] => []
  | i, v :: rest =>
    (if v.isText then [] else inside (.index i) (structureEntry modifiers groups v)) ++
      structureItems modifiers groups (i + 1) rest

end

/-- A modifier. -/
def modifierSpec : Json → List Finding :=
  object .object fun fields =>
    field fields "source" (demand .modifierSource) ++
    given fields "default" fun v => demand .defaultText (some v)

/-- A style. -/
def styleSpec : Json → List Finding
  | .str _ => []
  | .obj fields => demand .styleTemplate (some (.obj fields))
  | _ => unmet .textOrStyleTemplate

/-- A content wrapper. -/
def contentWrapper : Json → List Finding :=
  object (.objectWith "tag and ref") fun fields =>
    requiredText fields "tag" ++ requiredText fields "ref"

/-- How one component type is dressed. -/
def rune (groups : List String) : Json → List Finding :=
  object .object fun fields =>
    requiredText fields "block" ++
    given fields "modifiers" (object .object (eachField modifierSpec)) ++
    givenTexts fields "contextModifiers" ++
    given fields "staticModifiers"
      (array .textArray (eachItem fun v => demand .text (some v))) ++
    givenTexts fields "autoLabel" ++
    given fields "contentWrapper" contentWrapper ++
    given fields "styles" (object .object (eachField styleSpec)) ++
    given fields "structure"
      (object .object (eachField (structureEntry (declared fields "modifiers") groups)))

/-- The variants of an icon group. -/
def iconVariants : Json → List Finding :=
  object .iconVariants (eachField fun v => demand .iconMarkup (some v))

/-- A theme. -/
def theme : Json → List Finding :=
  object (.whole "Config") fun fields =>
    field fields "prefix" (demand .nonEmptyText) ++
    field fields "tokenPrefix" (demand .nonEmptyText) ++
    given fields "icons" (object .object (eachField iconVariants)) ++
    field fields "runes" (demand .present) ++
    given fields "runes" (object .object (eachField (rune (declared fields "icons"))))

end Livery.Check
