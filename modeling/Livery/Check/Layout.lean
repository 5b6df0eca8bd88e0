import Livery.Check.Finding
import Livery.Layout.Coding

/-!
# Checking layouts

`Check.layout` checks the shape of a layout and of everything in it. The references of slots have to
name declared fragments and widgets, and their sources have to be of a known form.
-/

namespace Livery.Check

/-! ## Fragments -/

/-- The value of an attribute of a fragment. -/
def chromeAttr (v : Json) : List Finding := demand .textOrPageData (some v)

/-- An iteration. -/
def iteration : Json → List Finding :=
  object (.objectWith "source and tag") fun fields =>
    requiredText fields "source" ++ requiredText fields "tag"

/-- The fields of a fragment, its children apart. -/
def chromeFields (fields : Entries Json) : List Finding :=
  requiredText fields "tag" ++
  (["ref", "svg", "pageText", "pageCondition", "textPrefix", "textSuffix"].flatMap
    (givenText fields)) ++
  given fields "attrs" (object .object (eachField chromeAttr)) ++
  given fields "iterate" iteration

mutual

/-- A fragment, at any depth. -/
def chromeEntry : Json → List Finding
  | .obj fields => chromeFields fields ++ chromeChildrenField fields
  | _ => unmet .object

/-- The children among the fields of a fragment. -/
def chromeChildrenField : List (String × Json) → List Finding
  | [] => []
  | (key, v) :: rest =>
    if key = "children" then inside (.field key) (chromeChildren v) else chromeChildrenField rest

/-- The children of a fragment. -/
def chromeChildren : Json → List Finding
  | .arr items => chromeItems 0 items
  | _ => unmet .array

/-- Children from an index on; texts are always fine. -/
def chromeItems : Nat → List Json → List Finding
  | _, [] => []
  | i, v :: rest =>
    (if v.isText then [] else inside (.index i) (chromeEntry v)) ++ chromeItems (i + 1) rest

end

/-! ## Widgets -/

/-- The options of a table of contents. -/
def tocOptions : Json → List Finding :=
  object .object fun fields =>
    (["minLevel", "maxLevel"].flatMap fun key =>
      given fields key fun v => demand .headingLevel (some v))

/-- A widget. -/
def widget : Json → List Finding :=
  object .object fun fields =>
    field fields "type" (demand .widgetKind) ++
    givenText fields "source" ++
    given fields "options" tocOptions

/-! ## Slots -/

/-- What the slots of a layout may refer to. -/
structure Declarations where
  chrome : List String
  widgets : List String

namespace Declarations

/-- A reference to a fragment. -/
def chromeReference (ds : Declarations) (name : String) : List Finding :=
  if ds.chrome.contains name then [] else dangling (.chrome name)

/-- A reference to a widget. -/
def widgetReference (ds : Declarations) (name : String) : List Finding :=
  if ds.widgets.contains name then [] else dangling (.widget name)

end Declarations

/-- The source of a slot; an empty specifier is none. -/
def slotSource (ds : Declarations) : Json → List Finding
  | .str text =>
    if text = "" then []
    else
      match Source.parse text with
      | .computed name => ds.widgetReference name
      | .chrome name => ds.chromeReference name
      | .unknown text => dangling (.source text)
      | _ => []
  | _ => unmet .text

/-- The class modifier of a slot. -/
def regionModifier : Json → List Finding :=
  object (.objectWith "region and modifier") fun fields =>
    requiredText fields "region" ++ requiredText fields "modifier"

/-- The class modifier of a wrapper. -/
def widgetModifier (ds : Declarations) : Json → List Finding :=
  object (.objectWith "computed and modifier") fun fields =>
    requiredText fields "modifier" ++
    field fields "computed" fun v => match v with
      | some (.str name) => ds.widgetReference name
      | _ => unmet .text

/-- The wrapper of a slot. -/
def slotWrapper (ds : Declarations) : Json → List Finding :=
  object (.objectWith "tag") fun fields =>
    requiredText fields "tag" ++ given fields "conditionalModifier" (widgetModifier ds)

/-- The fields of a slot, its children apart. -/
def slotFields (ds : Declarations) (fields : Entries Json) : List Finding :=
  requiredText fields "tag" ++
  given fields "source" (slotSource ds) ++
  (["class", "frontmatterCondition", "conditionalRegion"].flatMap (givenText fields)) ++
  givenTexts fields "attrs" ++
  given fields "conditionalModifier" regionModifier ++
  given fields "wrapper" (slotWrapper ds)

mutual

/-- A slot, at any depth. -/
def slot (ds : Declarations) : Json → List Finding
  | .obj fields => slotFields ds fields ++ slotChildrenField ds fields
  | _ => unmet .object

/-- A child of a slot. -/
def slotChild (ds : Declarations) : Json → List Finding
  | .str s =>
    match Text.behind? "chrome:" s with
    | some name => ds.chromeReference name
    | none => []
  | .obj fields =>
    if SlotChild.isSlot fields then slotFields ds fields ++ slotChildrenField ds fields
    else chromeEntry (.obj fields)
  | _ => unmet .textOrObject

/-- The children among the fields of a slot. -/
def slotChildrenField (ds : Declarations) : List (String × Json) → List Finding
  | [] => []
  | (key, v) :: rest =>
    if key = "children" then inside (.field key) (slotChildren ds v)
    else slotChildrenField ds rest

/-- The children of a slot. -/
def slotChildren (ds : Declarations) : Json → List Finding
  | .arr items => slotItems ds 0 items
  | _ => unmet .array

/-- Children from an index on. -/
def slotItems (ds : Declarations) : Nat → List Json → List Finding
  | _, [] => []
  | i, v :: rest => inside (.index i) (slotChild ds v) ++ slotItems ds (i + 1) rest

end

/-! ## Layouts -/

/-- A layout. -/
def layout : Json → List Finding :=
  object (.whole "Layout") fun fields =>
    let ds : Declarations := ⟨declared fields "chrome", declared fields "computed"⟩
    requiredText fields "block" ++
    givenText fields "tag" ++
    given fields "behaviors" (fun v => demand .textArray (some v)) ++
    given fields "chrome" (object .object (eachField chromeEntry)) ++
    given fields "computed" (object .object (eachField widget)) ++
    field fields "slots" (demand .present) ++
    given fields "slots" (object .object (eachField (slot ds)))

end Livery.Check
