import Livery.Check.Finding

/-!
# Checking manifests

`Check.manifest` checks the shape of a manifest. Where it declares layouts, its rules have to name
declared ones.
-/

namespace Livery.Check

/-- A layout that a theme ships. -/
def layoutDefinition : Json → List Finding :=
  object .object fun fields =>
    requiredText fields "component" ++ field fields "regions" (demand .requiredArray)

/-- The layout of a rule: a text that is not empty and, if layouts are declared, one of those. -/
def routeLayout (layouts : List String) : Option Json → List Finding
  | some (.str name) =>
    if name = "" then unmet .requiredText
    else if layouts.isEmpty || layouts.contains name then []
    else dangling (.layout name)
  | _ => unmet .requiredText

/-- A rule. -/
def routeRule (layouts : List String) : Json → List Finding :=
  object .object fun fields =>
    requiredText fields "pattern" ++ field fields "layout" (routeLayout layouts)

/-- A component that a theme ships. -/
def componentDefinition : Json → List Finding :=
  object .object fun fields => requiredText fields "component"

/-- A manifest. -/
def manifest : Json → List Finding :=
  object (.whole "Manifest") fun fields =>
    requiredText fields "name" ++
    requiredText fields "version" ++
    requiredText fields "target" ++
    requiredText fields "designTokens" ++
    given fields "layouts" (object .object (eachField layoutDefinition)) ++
    given fields "routeRules"
      (array .array (eachItem (routeRule (declared fields "layouts")))) ++
    given fields "components" (object .object (eachField componentDefinition))

end Livery.Check
