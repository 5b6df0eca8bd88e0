import Livery.Json.Field
import Livery.Theme.Coding
import Livery.Theme.Dressing

/-!
# Contracts

The contract of a theme lists the selectors and the markup that its components can have, derived
from the configuration alone: for each component type its root and modifier selectors, the labelled
elements with the feature that makes them, and the order of the children of the root.
-/

namespace Livery

open Text (nonEmpty?)

/-- What makes a labelled element. -/
inductive ElementOrigin
  | scaffold
  | contentWrapper
  | autoLabel
deriving DecidableEq

/-- A labelled element of a component. -/
structure ElementContract where
  tag : String
  selector : String
  origin : ElementOrigin
  /-- The label of the entry around this one. -/
  parent : Option String := none
  condition : Option String := none
  conditionAny : Option (List String) := none
deriving DecidableEq

/-- A modifier of a component. -/
structure ModifierContract where
  source : ModifierSource
  default : Option String
  /-- The class selector, with `{value}` in the place of the value. -/
  classPattern : String
  dataAttribute : String
deriving DecidableEq

/-- A modifier class that does not depend on a value: its suffix and its selector. -/
structure SuffixContract where
  suffix : String
  selector : String
deriving DecidableEq

/-- The contract of a component type. -/
structure RuneContract where
  block : String
  root : String
  dataRune : String
  modifiers : Dict ModifierContract
  contextModifiers : Dict SuffixContract
  staticModifiers : List SuffixContract
  /-- The labelled elements, by label. -/
  elements : Dict ElementContract
  inlineStyles : Dict StyleSpec
  /-- The labels of the root's children in order, with a mark in the place of the content. -/
  childOrder : List String

/-- The contract of a theme. -/
structure Contract where
  classPrefix : String
  runes : Dict RuneContract

namespace StructureEntry

mutual

/--
The labelled elements `found` so far, and those of an entry with this label inside the one labelled
`parent`. The first element with a label is kept.
-/
def collect (block : String) (parent : Option String) (found : Dict ElementContract) :
    StructureEntry → String → Dict ElementContract
  | ⟨tag, _, _, condition, conditionAny, _, _, _, _, _, _, children⟩, label =>
    let found := if found.contains label then found
      else found.insert label
        { tag
          selector := "." ++ block ++ "__" ++ label
          origin := .scaffold
          parent
          condition := nonEmpty? condition
          conditionAny }
    collectAll block label found children

/-- `collect` for the children of the entry labelled `parent` that have a label of their own. -/
def collectAll (block parent : String) (found : Dict ElementContract) :
    List StructureChild → Dict ElementContract
  | [] => found
  | .text _ :: rest => collectAll block parent found rest
  | .entry e :: rest =>
    match nonEmpty? e.label with
    | some label => collectAll block parent (collect block (some parent) found e label) rest
    | none => collectAll block parent found rest

end

end StructureEntry

namespace Rune

/-- The labels of the entries in front of the content, or of those behind it. -/
def scaffoldLabels (r : Rune) (before : Bool) : List String :=
  (r.scaffold.entries.filter fun p => p.2.before = before).map fun p => p.2.label.getD p.1

/-- The mark that stands for the content among the labels of the children. -/
def contentMark (r : Rune) : String :=
  match r.contentWrapper with
  | some w => "\x7bcontent:" ++ w.label ++ "\x7d"
  | none => "\x7bcontent\x7d"

/-- The labelled elements of a component, by label; wrapper and labels replace earlier ones. -/
def elementContracts (r : Rune) (block : String) : Dict ElementContract :=
  let synthesized := r.scaffold.entries.foldl
    (fun found p => p.2.collect block none found (p.2.label.getD p.1)) ∅
  let make (tag label : String) (origin : ElementOrigin) : String × ElementContract :=
    (label, { tag, selector := "." ++ block ++ "__" ++ label, origin })
  (synthesized.extend
    (r.contentWrapper.toList.map fun w => make w.tag w.label .contentWrapper)).extend
      (r.autoLabel.entries.map fun p => make p.1 p.2 .autoLabel)

/-- The contract of a component type. -/
def contract (r : Rune) (name classPrefix : String) : RuneContract :=
  let block := classPrefix ++ "-" ++ r.block
  { block := r.block
    root := "." ++ block
    dataRune := Text.lower name
    modifiers := r.modifiers.mapValues fun name m =>
      { source := m.source
        default := m.default
        classPattern := "." ++ block ++ "--\x7bvalue\x7d"
        dataAttribute := dataKey name }
    contextModifiers := r.contextModifiers.mapValues fun _ suffix =>
      ⟨suffix, "." ++ block ++ "--" ++ suffix⟩
    staticModifiers := r.staticModifiers.map fun suffix =>
      ⟨suffix, "." ++ block ++ "--" ++ suffix⟩
    elements := r.elementContracts block
    inlineStyles := r.styles
    childOrder := r.scaffoldLabels true ++ [r.contentMark] ++ r.scaffoldLabels false }

end Rune

/-- The contract of a theme. -/
def Theme.contract (t : Theme) : Contract :=
  ⟨t.classPrefix, t.runes.mapValues fun name r => r.contract name t.classPrefix⟩

/-! ## Writing -/

namespace ElementOrigin

/-- The name of an origin. -/
def toJson : ElementOrigin → Json
  | .scaffold => .str "structure"
  | .contentWrapper => .str "contentWrapper"
  | .autoLabel => .str "autoLabel"

end ElementOrigin

namespace ElementContract

/-- The value that describes an element of a contract. -/
def toJson (c : ElementContract) : Json :=
  Json.record
    [("tag", some (.str c.tag)),
     ("selector", some (.str c.selector)),
     ("source", some c.origin.toJson),
     ("parent", Json.ofText? c.parent),
     ("condition", Json.ofText? c.condition),
     ("conditionAny", c.conditionAny.map Json.ofTextList)]

end ElementContract

namespace ModifierContract

/-- The value that describes a modifier of a contract. -/
def toJson (c : ModifierContract) : Json :=
  Json.record
    [("source", some c.source.toJson),
     ("default", Json.ofText? c.default),
     ("classPattern", some (.str c.classPattern)),
     ("dataAttribute", some (.str c.dataAttribute))]

end ModifierContract

namespace SuffixContract

/-- The value that describes a class of a contract, where `key` names the suffix. -/
def toJson (key : String) (c : SuffixContract) : Json :=
  .obj [(key, .str c.suffix), ("selector", .str c.selector)]

end SuffixContract

namespace RuneContract

/-- The value that describes the contract of a component type. -/
def toJson (c : RuneContract) : Json :=
  Json.record
    [("block", some (.str c.block)),
     ("root", some (.str c.root)),
     ("dataRune", some (.str c.dataRune)),
     ("modifiers", Json.unlessEmpty ModifierContract.toJson c.modifiers),
     ("contextModifiers", Json.unlessEmpty (SuffixContract.toJson "suffix") c.contextModifiers),
     ("staticModifiers", Json.unlessNil (SuffixContract.toJson "name") c.staticModifiers),
     ("elements", Json.unlessEmpty ElementContract.toJson c.elements),
     ("inlineStyles", Json.unlessEmpty StyleSpec.toJson c.inlineStyles),
     ("childOrder", some (Json.ofTextList c.childOrder))]

end RuneContract

namespace Contract

/-- The schema language that a contract names. -/
def schema : String := "https://json-schema.org/draft/2020-12/schema"

/-- What a contract says of itself. -/
def description : String :=
  "HTML structure contracts for the identity transform. Documents the BEM selectors, data " ++
  "attributes, and HTML structure the engine produces for each rune. Auto-generated from theme " ++
  "config, do not edit by hand."

/-- The value that describes the contract of a theme. -/
def toJson (c : Contract) : Json :=
  .obj [("$schema", .str schema),
    ("description", .str description),
    ("prefix", .str c.classPrefix),
    ("runes", .obj (c.runes.mapValues fun _ r => r.toJson).entries)]

end Contract

end Livery
