import Livery.Json.Field
import Livery.Manifest.Basic

/-!
# Manifests as JSON

`Manifest.ofJson?` reads a manifest and `Manifest.toJson` writes it; the types that a manifest is
made of have the same pair.
-/

namespace Livery

open Json (required defaulted optional decodeText decodeBool decodeList decodeDict decodeRecord)

namespace LayoutDefinition

/-- The layout that a value describes. -/
def ofJson? : Json → Option LayoutDefinition :=
  decodeRecord ["component", "regions", "requiredRegions"] fun fields => do
    let component ← required decodeText fields "component"
    let regions ← defaulted (decodeList decodeText) [] fields "regions"
    let requiredRegions ← defaulted (decodeList decodeText) [] fields "requiredRegions"
    some { component, regions, requiredRegions }

/-- The value that describes a layout. -/
def toJson (l : LayoutDefinition) : Json :=
  Json.record
    [("component", some (.str l.component)), ("regions", some (Json.ofTextList l.regions)),
     ("requiredRegions", Json.unlessNil Json.str l.requiredRegions)]

end LayoutDefinition

namespace ComponentDefinition

/-- The component that replaces another one. -/
def overrideOfJson? : Json → Option String :=
  decodeRecord ["component"] fun fields => required decodeText fields "component"

/-- The value that describes a replacement. -/
def overrideToJson (component : String) : Json := .obj [("component", .str component)]

/-- The component that a value describes. -/
def ofJson? : Json → Option ComponentDefinition :=
  decodeRecord ["component", "propMapping", "acceptsChildren", "contextOverrides"] fun fields => do
    let component ← required decodeText fields "component"
    let propMapping ← defaulted (decodeDict decodeText) ∅ fields "propMapping"
    let acceptsChildren ← optional decodeBool fields "acceptsChildren"
    let contextOverrides ← defaulted (decodeDict overrideOfJson?) ∅ fields "contextOverrides"
    some { component, propMapping, acceptsChildren, contextOverrides }

/-- The value that describes a component. -/
def toJson (c : ComponentDefinition) : Json :=
  Json.record
    [("component", some (.str c.component)),
     ("propMapping", Json.unlessEmpty Json.str c.propMapping),
     ("acceptsChildren", c.acceptsChildren.map Json.bool),
     ("contextOverrides", Json.unlessEmpty overrideToJson c.contextOverrides)]

end ComponentDefinition

namespace UnsupportedBehavior

/-- The names of the behaviours. -/
def names : List (String × UnsupportedBehavior) :=
  [("fallback", .fallback), ("passthrough", .passthrough), ("hide", .hide)]

/-- The name of a behaviour. -/
def toText : UnsupportedBehavior → String
  | .fallback => "fallback"
  | .passthrough => "passthrough"
  | .hide => "hide"

end UnsupportedBehavior

namespace RouteRule

/-- The rule that a value describes. -/
def ofJson? : Json → Option RouteRule :=
  decodeRecord ["pattern", "layout"] fun fields => do
    let pattern ← required decodeText fields "pattern"
    let layout ← required decodeText fields "layout"
    some { pattern, layout }

/-- The value that describes a rule. -/
def toJson (r : RouteRule) : Json := .obj [("pattern", .str r.pattern), ("layout", .str r.layout)]

end RouteRule

namespace Manifest

/-- The manifest that a value describes. -/
def ofJson? : Json → Option Manifest :=
  decodeRecord
    ["name", "version", "description", "target", "designTokens", "layouts", "routeRules",
      "components", "unsupportedRuneBehavior", "fallbackComponent"] fun fields => do
    let name ← required decodeText fields "name"
    let version ← required decodeText fields "version"
    let description ← optional decodeText fields "description"
    let target ← required decodeText fields "target"
    let designTokens ← required decodeText fields "designTokens"
    let layouts ← defaulted (decodeDict LayoutDefinition.ofJson?) ∅ fields "layouts"
    let routeRules ← defaulted (decodeList RouteRule.ofJson?) [] fields "routeRules"
    let components ← defaulted (decodeDict ComponentDefinition.ofJson?) ∅ fields "components"
    let unsupported ←
      optional (Json.decodeCase UnsupportedBehavior.names) fields "unsupportedRuneBehavior"
    let fallbackComponent ← optional decodeText fields "fallbackComponent"
    some { name, version, description, target, designTokens, layouts, routeRules, components,
           unsupported, fallbackComponent }

/-- The value that describes a manifest. -/
def toJson (m : Manifest) : Json :=
  Json.record
    [("name", some (.str m.name)),
     ("version", some (.str m.version)),
     ("description", Json.ofText? m.description),
     ("target", some (.str m.target)),
     ("designTokens", some (.str m.designTokens)),
     ("layouts", some (.obj (m.layouts.mapValues fun _ l => l.toJson).entries)),
     ("routeRules", Json.unlessNil RouteRule.toJson m.routeRules),
     ("components", some (.obj (m.components.mapValues fun _ c => c.toJson).entries)),
     ("unsupportedRuneBehavior", m.unsupported.map fun b => .str b.toText),
     ("fallbackComponent", Json.ofText? m.fallbackComponent)]

end Manifest

end Livery
