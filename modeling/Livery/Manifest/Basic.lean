import Livery.Dict
import Livery.Manifest.Glob
import Livery.Text.Affix

/-!
# Manifests

A `Manifest` says what a theme ships: its layouts, its components, and the rules by which the pages
of a site get their layouts. The first rule that matches the URL of a page decides
(`RouteRule.layoutOf`).
-/

namespace Livery

/-- A layout that a theme ships. -/
structure LayoutDefinition where
  component : String
  /-- The regions that the layout knows. -/
  regions : List String := []
  /-- The regions that the layout cannot do without. -/
  requiredRegions : List String := []
deriving DecidableEq

/-- A component that a theme ships. -/
structure ComponentDefinition where
  component : String
  /-- The properties of the component, by attribute. -/
  propMapping : Dict String := ∅
  acceptsChildren : Option Bool := none
  /-- The components that replace this one, by the type of the enclosing component. -/
  contextOverrides : Dict String := ∅
deriving DecidableEq

/-- What happens to component types without a component. -/
inductive UnsupportedBehavior
  | fallback
  | passthrough
  | hide
deriving DecidableEq

/-- A rule that gives pages their layout. -/
structure RouteRule where
  /-- A glob over URLs without their leading slash. -/
  pattern : String
  layout : String
deriving DecidableEq

/-- What a theme ships. -/
structure Manifest where
  name : String
  version : String
  description : Option String := none
  /-- What the components are written for. -/
  target : String
  /-- The path of the design tokens. -/
  designTokens : String
  layouts : Dict LayoutDefinition := ∅
  /-- The rules, of which the first match decides. -/
  routeRules : List RouteRule := []
  /-- The components, by component type. -/
  components : Dict ComponentDefinition := ∅
  unsupported : Option UnsupportedBehavior := none
  fallbackComponent : Option String := none
deriving DecidableEq

namespace RouteRule

/-- Whether a rule matches a URL without its leading slash. -/
def accepts (r : RouteRule) (path : String) : Bool := (Glob.ofText r.pattern).accepts path

/-- The layout of pages that no rule matches. -/
def defaultLayout : String := "default"

/-- The layout of the page with a URL: that of the first rule that matches it. -/
def layoutOf (rules : List RouteRule) (url : String) : String :=
  let path := (Text.behind? "/" url).getD url
  ((rules.find? fun r => r.accepts path).map RouteRule.layout).getD defaultLayout

end RouteRule

/-- The layout of the page with a URL. -/
def Manifest.layoutOf (m : Manifest) (url : String) : String := RouteRule.layoutOf m.routeRules url

end Livery
