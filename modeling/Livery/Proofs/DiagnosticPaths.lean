import Mathlib
import Livery.Check.Manifest
import Livery.Check.Report
import Livery.Proofs.FindingPlaces

/-!
# The paths in diagnostics

All findings of the checks of themes, layouts and manifests are right (`Check.fitting_theme`,
`Check.fitting_layout`, `Check.fitting_manifest`) : check by check from the combinators, and down
the children of synthesized elements, fragments and slots by `Json.childInduct`.

`Check.diagnostic_path` says it of the texts that diagnostics give for their places. Findings are at
the root or behind one of the fields of a configuration (`Check.Rooted`), so these texts are read
back as the paths of the findings.
-/

namespace Livery

namespace Check

theorem fitting_reference {w : Json} (declared : Prop) [Decidable declared] (r : Dangling) :
    Fitting (some w) (if declared then [] else dangling r) := by
  split
  · exact fitting_nil
  · exact fitting_dangling r

/-! ## Themes -/

section

variable {modifiers groups : List String} {fields : Entries Json} {v : Json}

theorem fitting_modifierReference (name : String) :
    Fitting (some v) (modifierReference modifiers name) :=
  fitting_reference _ _

/-- What is wrong with an item is reported for the array. -/
theorem fitting_conditionAny (items : List Json) :
    Fitting (some (.arr items)) (conditionAny modifiers items) := by
  refine fitting_flatMap fun w hw => ?_
  split
  · exact fitting_modifierReference _
  · rename_i hname
    have hitem : ¬ w.isText = true := by
      cases w with
      | str s => exact absurd rfl (hname s)
      | _ => simp [Json.isText, Json.asText?]
    have hitems : items.all Json.isText = false := List.all_eq_false.mpr ⟨w, hw, hitem⟩
    exact fitting_unmet hitems

theorem fitting_icon : Fitting (some (.obj fields)) (icon groups fields) := by
  refine fitting_append ?_ (fitting_field (by decide) (fitting_demand _ _))
  exact fitting_field (by decide)
    (fitting_textOr (fun _ => Demand.isText_eq_false) fun _ => fitting_reference _ _)

theorem fitting_structureFields (hfields : (Json.obj fields).Readable) :
    Fitting (some (.obj fields)) (structureFields modifiers groups fields) := by
  have hconditionAny : ∀ w : Json,
      Fitting (some w) (array .textArray (conditionAny modifiers) w) := by
    refine fun w => fitting_array (fun _ => Demand.isTextArray_eq_false) fun items hitems => ?_
    subst hitems
    exact fitting_conditionAny items
  refine fitting_append (fitting_append (fitting_append (fitting_append ?_ ?_) ?_) ?_) ?_
  · exact fitting_requiredText (by decide)
  · exact fitting_given hfields fun _ _ _ => fitting_textThen fun _ => fitting_modifierReference _
  · exact fitting_given hfields fun w _ _ => hconditionAny w
  · exact fitting_given hfields fun _ _ _ => fitting_textThen fun _ => fitting_reference _ _
  · exact fitting_given hfields fun _ _ hw => fitting_object rfl hw fun _ _ => fitting_icon

theorem fitting_structureChild : ∀ v : Json, v.Readable →
    Fitting (some v) (structureChild modifiers groups v) := by
  refine Json.childInduct ?_ ?_
  · intro fields ih hfields
    refine fitting_append (fitting_structureFields hfields) ?_
    rw [structureChildrenField_eq]
    exact fitting_children hfields ih
  · intro v hv _
    cases v with
    | obj fields => cases hv
    | str s => exact fitting_nil
    | _ => exact fitting_unmet rfl

theorem fitting_structureEntry (hv : v.Readable) :
    Fitting (some v) (structureEntry modifiers groups v) := by
  cases v with
  | obj fields => exact fitting_structureChild _ hv
  | _ => exact fitting_unmet rfl

theorem fitting_modifierSpec (hv : v.Readable) : Fitting (some v) (modifierSpec v) := by
  refine fitting_object rfl hv fun fields hfields => fitting_append ?_ ?_
  · exact fitting_field (by decide) (fitting_demand _ _)
  · exact fitting_given hfields fun _ _ _ => fitting_demand _ _

theorem fitting_styleSpec : Fitting (some v) (styleSpec v) := by
  cases v with
  | str s => exact fitting_nil
  | obj fields => exact fitting_demand _ _
  | _ => exact fitting_unmet rfl

theorem fitting_contentWrapper (hv : v.Readable) : Fitting (some v) (contentWrapper v) :=
  fitting_object rfl hv fun _ _ =>
    fitting_append (fitting_requiredText (by decide)) (fitting_requiredText (by decide))

theorem fitting_texts (hv : v.Readable) :
    Fitting (some v) (array .textArray (eachItem fun w => demand .text (some w)) v) := by
  refine fitting_array (fun _ => Demand.isTextArray_eq_false) fun items hitems => ?_
  subst hitems
  exact fitting_eachItem hv fun _ _ _ => fitting_demand _ _

theorem fitting_rune (hv : v.Readable) : Fitting (some v) (rune groups v) := by
  refine fitting_object rfl hv fun fields hfields => ?_
  repeat' apply fitting_append
  · exact fitting_requiredText (by decide)
  · exact fitting_givenValues hfields fun _ => fitting_modifierSpec
  · exact fitting_givenTexts hfields
  · exact fitting_given hfields fun _ _ => fitting_texts
  · exact fitting_givenTexts hfields
  · exact fitting_given hfields fun _ _ => fitting_contentWrapper
  · exact fitting_givenValues hfields fun _ _ => fitting_styleSpec
  · exact fitting_givenValues hfields fun _ => fitting_structureEntry

theorem fitting_iconVariants (hv : v.Readable) : Fitting (some v) (iconVariants v) :=
  fitting_values rfl hv fun _ _ => fitting_demand _ _

theorem fitting_theme (hv : v.Readable) : Fitting (some v) (theme v) := by
  refine fitting_object rfl hv fun fields hfields => ?_
  repeat' apply fitting_append
  · exact fitting_field (by decide) (fitting_demand _ _)
  · exact fitting_field (by decide) (fitting_demand _ _)
  · exact fitting_givenValues hfields fun _ => fitting_iconVariants
  · exact fitting_field (by decide) (fitting_demand _ _)
  · exact fitting_givenValues hfields fun _ => fitting_rune

end

/-! ## Layouts -/

section

variable {ds : Declarations} {fields : Entries Json} {v : Json}

theorem fitting_iteration (hv : v.Readable) : Fitting (some v) (iteration v) :=
  fitting_object rfl hv fun _ _ =>
    fitting_append (fitting_requiredText (by decide)) (fitting_requiredText (by decide))

theorem fitting_chromeFields (hfields : (Json.obj fields).Readable) :
    Fitting (some (.obj fields)) (chromeFields fields) := by
  refine fitting_append (fitting_append (fitting_append ?_ ?_) ?_) ?_
  · exact fitting_requiredText (by decide)
  · exact fitting_flatMap fun _ _ => fitting_givenText hfields
  · exact fitting_givenValues hfields fun _ _ => fitting_demand _ _
  · exact fitting_given hfields fun _ _ => fitting_iteration

theorem fitting_chromeChild : ∀ v : Json, v.Readable → Fitting (some v) (chromeChild v) := by
  refine Json.childInduct ?_ ?_
  · intro fields ih hfields
    refine fitting_append (fitting_chromeFields hfields) ?_
    rw [chromeChildrenField_eq]
    exact fitting_children hfields ih
  · intro v hv _
    cases v with
    | obj fields => cases hv
    | str s => exact fitting_nil
    | _ => exact fitting_unmet rfl

theorem fitting_chromeEntry (hv : v.Readable) : Fitting (some v) (chromeEntry v) := by
  cases v with
  | obj fields => exact fitting_chromeChild _ hv
  | _ => exact fitting_unmet rfl

theorem fitting_tocOptions (hv : v.Readable) : Fitting (some v) (tocOptions v) :=
  fitting_object rfl hv fun _ hfields =>
    fitting_flatMap fun _ _ => fitting_given hfields fun _ _ _ => fitting_demand _ _

theorem fitting_widget (hv : v.Readable) : Fitting (some v) (widget v) := by
  refine fitting_object rfl hv fun fields hfields => fitting_append (fitting_append ?_ ?_) ?_
  · exact fitting_field (by decide) (fitting_demand _ _)
  · exact fitting_givenText hfields
  · exact fitting_given hfields fun _ _ => fitting_tocOptions

theorem fitting_slotSource : Fitting (some v) (slotSource ds v) := by
  cases v with
  | str text =>
    rw [slotSource]
    split
    · exact fitting_nil
    · split
      · exact fitting_reference _ _
      · exact fitting_reference _ _
      · exact fitting_dangling _
      · exact fitting_nil
  | _ => exact fitting_unmet rfl

theorem fitting_regionModifier (hv : v.Readable) : Fitting (some v) (regionModifier v) :=
  fitting_object rfl hv fun _ _ =>
    fitting_append (fitting_requiredText (by decide)) (fitting_requiredText (by decide))

theorem fitting_widgetModifier (hv : v.Readable) : Fitting (some v) (widgetModifier ds v) := by
  refine fitting_object rfl hv fun fields _ => ?_
  refine fitting_append (fitting_requiredText (by decide)) (fitting_field (by decide) ?_)
  exact fitting_textOr (fun _ => Demand.isText_eq_false) fun _ => fitting_reference _ _

theorem fitting_slotWrapper (hv : v.Readable) : Fitting (some v) (slotWrapper ds v) := by
  refine fitting_object rfl hv fun fields hfields => ?_
  refine fitting_append (fitting_requiredText (by decide)) ?_
  exact fitting_given hfields fun _ _ => fitting_widgetModifier

theorem fitting_slotFields (hfields : (Json.obj fields).Readable) :
    Fitting (some (.obj fields)) (slotFields ds fields) := by
  refine fitting_append (fitting_append (fitting_append (fitting_append (fitting_append
    ?_ ?_) ?_) ?_) ?_) ?_
  · exact fitting_requiredText (by decide)
  · exact fitting_given hfields fun _ _ _ => fitting_slotSource
  · exact fitting_flatMap fun _ _ => fitting_givenText hfields
  · exact fitting_givenTexts hfields
  · exact fitting_given hfields fun _ _ => fitting_regionModifier
  · exact fitting_given hfields fun _ _ => fitting_slotWrapper

/-- A slot, if its children are checked rightly. -/
theorem fitting_slotBody (hfields : (Json.obj fields).Readable)
    (h : ∀ l, fields.lookup "children" = some (.arr l) → ∀ w ∈ l, w.Readable →
      Fitting (some w) (slotChild ds w)) :
    Fitting (some (.obj fields)) (slotFields ds fields ++ slotChildrenField ds fields) := by
  refine fitting_append (fitting_slotFields hfields) ?_
  rw [slotChildrenField_eq]
  exact fitting_children hfields h

theorem fitting_slotChild : ∀ v : Json, v.Readable → Fitting (some v) (slotChild ds v) := by
  refine Json.childInduct ?_ ?_
  · intro fields ih hfields
    rw [slotChild]
    split
    · exact fitting_slotBody hfields ih
    · exact fitting_chromeEntry hfields
  · intro v hv _
    cases v with
    | obj fields => cases hv
    | str s =>
      rw [slotChild]
      split
      · exact fitting_reference _ _
      · exact fitting_nil
    | _ => exact fitting_unmet rfl

theorem fitting_slot (hv : v.Readable) : Fitting (some v) (slot ds v) := by
  cases v with
  | obj fields => exact fitting_slotBody hv fun _ _ w _ => fitting_slotChild w
  | _ => exact fitting_unmet rfl

theorem fitting_layout (hv : v.Readable) : Fitting (some v) (layout v) := by
  refine fitting_object rfl hv fun fields hfields => ?_
  repeat' apply fitting_append
  · exact fitting_requiredText (by decide)
  · exact fitting_givenText hfields
  · exact fitting_given hfields fun _ _ _ => fitting_demand _ _
  · exact fitting_givenValues hfields fun _ => fitting_chromeEntry
  · exact fitting_givenValues hfields fun _ => fitting_widget
  · exact fitting_field (by decide) (fitting_demand _ _)
  · exact fitting_givenValues hfields fun _ => fitting_slot

end

/-! ## Manifests -/

section

variable {layouts : List String} {v : Json}

theorem fitting_layoutDefinition (hv : v.Readable) : Fitting (some v) (layoutDefinition v) :=
  fitting_object rfl hv fun _ _ =>
    fitting_append (fitting_requiredText (by decide))
      (fitting_field (by decide) (fitting_demand _ _))

theorem fitting_routeLayout (v : Option Json) : Fitting v (routeLayout layouts v) := by
  refine fitting_textOr (d := .requiredText) (fun _ => Demand.isNonEmptyText_eq_false) fun s => ?_
  split
  · rename_i hs
    exact fitting_unmet (by rw [hs]; rfl)
  · exact fitting_reference _ _

theorem fitting_routeRule (hv : v.Readable) : Fitting (some v) (routeRule layouts v) :=
  fitting_object rfl hv fun _ _ =>
    fitting_append (fitting_requiredText (by decide))
      (fitting_field (by decide) (fitting_routeLayout _))

theorem fitting_componentDefinition (hv : v.Readable) : Fitting (some v) (componentDefinition v) :=
  fitting_object rfl hv fun _ _ => fitting_requiredText (by decide)

theorem fitting_routeRules (hv : v.Readable) :
    Fitting (some v) (array .array (eachItem (routeRule layouts)) v) := by
  refine fitting_array (fun _ => Demand.array_holds_eq_false) fun items hitems => ?_
  subst hitems
  exact fitting_eachItem hv fun _ _ => fitting_routeRule

theorem fitting_manifest (hv : v.Readable) : Fitting (some v) (manifest v) := by
  refine fitting_object rfl hv fun fields hfields => ?_
  repeat' apply fitting_append
  · exact fitting_requiredText (by decide)
  · exact fitting_requiredText (by decide)
  · exact fitting_requiredText (by decide)
  · exact fitting_requiredText (by decide)
  · exact fitting_givenValues hfields fun _ => fitting_layoutDefinition
  · exact fitting_given hfields fun _ _ => fitting_routeRules
  · exact fitting_givenValues hfields fun _ => fitting_componentDefinition

end

/-! ## Diagnostics -/

/-- All of some findings are at the root or behind a field that has a name. -/
def Rooted (l : List Finding) : Prop := ∀ f ∈ l, f.path.Rooted

theorem rooted_append {l l' : List Finding} (h : Rooted l) (h' : Rooted l') : Rooted (l ++ l') :=
  fun f hf => (List.mem_append.mp hf).elim (h f) (h' f)

theorem rooted_unmet (d : Demand) : Rooted (unmet d) := by
  intro f hf
  obtain rfl := List.mem_singleton.mp hf
  exact nofun

theorem rooted_inside {key : String} (hkey : key ≠ "") (l : List Finding) :
    Rooted (inside (.field key) l) := by
  intro f hf
  obtain ⟨g, -, rfl⟩ := List.mem_map.mp hf
  rintro s ⟨⟩
  exact ⟨key, rfl, hkey⟩

theorem rooted_field {fields : Entries Json} {key : String} {check : Option Json → List Finding}
    (hkey : key ≠ "") : Rooted (field fields key check) :=
  rooted_inside hkey _

theorem rooted_given {fields : Entries Json} {key : String} {check : Json → List Finding}
    (hkey : key ≠ "") : Rooted (given fields key check) := by
  rw [given]
  split
  · exact fun _ hf => (List.not_mem_nil hf).elim
  · exact rooted_inside hkey _

theorem rooted_object {d : Demand} {check : Entries Json → List Finding} {v : Json}
    (h : ∀ fields, Rooted (check fields)) : Rooted (object d check v) := by
  cases v with
  | obj fields => exact h fields
  | _ => exact rooted_unmet d

theorem rooted_theme (v : Json) : Rooted (theme v) := by
  refine rooted_object fun fields => ?_
  refine rooted_append (rooted_append (rooted_append (rooted_append ?_ ?_) ?_) ?_) ?_
  · exact rooted_field (by decide)
  · exact rooted_field (by decide)
  · exact rooted_given (by decide)
  · exact rooted_field (by decide)
  · exact rooted_given (by decide)

theorem rooted_layout (v : Json) : Rooted (layout v) := by
  refine rooted_object fun fields => ?_
  refine rooted_append (rooted_append (rooted_append (rooted_append (rooted_append (rooted_append
    ?_ ?_) ?_) ?_) ?_) ?_) ?_
  · exact rooted_field (by decide)
  · exact rooted_given (by decide)
  · exact rooted_given (by decide)
  · exact rooted_given (by decide)
  · exact rooted_given (by decide)
  · exact rooted_field (by decide)
  · exact rooted_given (by decide)

theorem rooted_manifest (v : Json) : Rooted (manifest v) := by
  refine rooted_object fun fields => ?_
  refine rooted_append (rooted_append (rooted_append (rooted_append (rooted_append (rooted_append
    ?_ ?_) ?_) ?_) ?_) ?_) ?_
  · exact rooted_field (by decide)
  · exact rooted_field (by decide)
  · exact rooted_field (by decide)
  · exact rooted_field (by decide)
  · exact rooted_given (by decide)
  · exact rooted_given (by decide)
  · exact rooted_given (by decide)

theorem exists_unmet {p : Problem} (h : p.severity = .error) : ∃ d, p = .unmet d := by
  cases p with
  | unmet d => exact ⟨d, rfl⟩
  | dangling r => cases h

theorem exists_dangling {p : Problem} (h : p.severity = .warning) : ∃ r, p = .dangling r := by
  cases p with
  | unmet d => cases h
  | dangling r => exact ⟨r, rfl⟩

/-- A diagnostic reports a right finding, whose path is read from its text. -/
theorem exists_of_mem_diagnostics {v : Json} {l : List Finding} (hl : Fitting (some v) l)
    (hroot : Rooted l) {severity : Severity} {d : Diagnostic}
    (hd : d ∈ (Report.mk l).diagnostics severity) :
    ∃ f ∈ l, d = f.diagnostic ∧ f.problem.severity = severity ∧ f.Fits (some v) ∧
      Path.ofText? d.path = some f.path ∧ (v.at? f.path.dropLast).isSome := by
  obtain ⟨f, hf, rfl⟩ := List.mem_map.mp hd
  obtain ⟨hf, hseverity⟩ := List.mem_filter.mp hf
  have hfits := hl f hf
  refine ⟨f, hf, rfl, of_decide_eq_true hseverity, hfits, ?_, ?_⟩
  · exact Path.ofText?_render hfits.plain (hroot f hf)
  · rcases hfits.reached with hpath | hreached
    · rw [hpath]
      rfl
    · exact hreached

/-- The check of a configuration has right findings only, and they are rooted. -/
theorem fitting_configuration {v : Json} (hv : v.Readable) {check : Json → List Finding}
    (hcheck : check ∈ [theme, layout, manifest]) :
    Fitting (some v) (check v) ∧ Rooted (check v) := by
  simp only [List.mem_cons, List.not_mem_nil, or_false] at hcheck
  rcases hcheck with rfl | rfl | rfl
  · exact ⟨fitting_theme hv, rooted_theme v⟩
  · exact ⟨fitting_layout hv, rooted_layout v⟩
  · exact ⟨fitting_manifest hv, rooted_manifest v⟩

/-- The path in a diagnostic of a theme, a layout or a manifest leads through the configuration, up
to its last step at least. At the place of an error there is nothing, or a value without the shape
that the check demands there, and at the place of a warning there is a value. -/
theorem diagnostic_path {v : Json} (hv : v.WellFormed)
    (hnames : ∀ name ∈ v.fieldNames, Path.IsPlain name) {check : Json → List Finding}
    (hcheck : check ∈ [theme, layout, manifest]) :
    (∀ d ∈ (Report.mk (check v)).errors, ∃ p x, ⟨p, .unmet x⟩ ∈ check v ∧
      d = Finding.diagnostic ⟨p, .unmet x⟩ ∧ Path.ofText? d.path = some p ∧
      (v.at? p.dropLast).isSome ∧ ∀ w, v.at? p = some w → x.holds (some w) = false) ∧
    ∀ d ∈ (Report.mk (check v)).warnings, ∃ p, Path.ofText? d.path = some p ∧
      (v.at? p.dropLast).isSome ∧ (v.at? p).isSome := by
  obtain ⟨hright, hroot⟩ := fitting_configuration ⟨hv, hnames⟩ hcheck
  constructor
  · intro d hd
    obtain ⟨⟨p, problem⟩, hf, hdiagnostic, hseverity, hfits, hread, hreached⟩ :=
      exists_of_mem_diagnostics hright hroot hd
    obtain ⟨x, rfl⟩ := exists_unmet hseverity
    refine ⟨p, x, hf, hdiagnostic, hread, hreached, fun w hw => ?_⟩
    rw [← hw]
    exact hfits.unmet x rfl
  · intro d hd
    obtain ⟨⟨p, problem⟩, -, -, hseverity, hfits, hread, hreached⟩ :=
      exists_of_mem_diagnostics hright hroot hd
    obtain ⟨r, rfl⟩ := exists_dangling hseverity
    exact ⟨p, hread, hreached, hfits.dangling r rfl⟩

/-! ## A theme with errors at several depths -/

/-- A theme with a token prefix that is empty, a modifier that is no text, and a badge whose child
has a condition but no tag. -/
def brokenTheme : Json :=
  .obj [("prefix", .str "rf"), ("tokenPrefix", .str ""), ("runes", .obj [("Hint", .obj
    [("block", .str "hint"), ("staticModifiers", .arr [.str "wide", .null]),
      ("structure", .obj [("badge", .obj [("tag", .str "span"), ("children", .arr
        [.str "Note", .obj [("condition", .str "level")]])])])])])]

/-- The tag is missing behind the path of its error, and the condition stands at the path of its
warning. -/
theorem diagnostic_path_brokenTheme :
    brokenTheme.WellFormed ∧ (∀ name ∈ brokenTheme.fieldNames, Path.IsPlain name) ∧
    theme ∈ [theme, layout, manifest] ∧
    (Report.mk (theme brokenTheme)).errors.map Diagnostic.path =
      ["tokenPrefix", "runes.Hint.staticModifiers[1]",
        "runes.Hint.structure.badge.children[1].tag"] ∧
    (Report.mk (theme brokenTheme)).warnings.map Diagnostic.path =
      ["runes.Hint.structure.badge.children[1].condition"] ∧
    (∀ d ∈ (Report.mk (theme brokenTheme)).errors, ∃ p x, ⟨p, .unmet x⟩ ∈ theme brokenTheme ∧
      d = Finding.diagnostic ⟨p, .unmet x⟩ ∧ Path.ofText? d.path = some p ∧
      (brokenTheme.at? p.dropLast).isSome ∧
      ∀ w, brokenTheme.at? p = some w → x.holds (some w) = false) ∧
    ∀ d ∈ (Report.mk (theme brokenTheme)).warnings, ∃ p, Path.ofText? d.path = some p ∧
      (brokenTheme.at? p.dropLast).isSome ∧ (brokenTheme.at? p).isSome := by
  have hwell : brokenTheme.WellFormed := by
    simp [brokenTheme, Json.WellFormed, Json.WellFormedFields, Json.WellFormedItems, Entries.keys]
  have hnames : ∀ name ∈ brokenTheme.fieldNames, Path.IsPlain name := by
    have heq : brokenTheme.fieldNames = ["prefix", "tokenPrefix", "runes", "Hint", "block",
        "staticModifiers", "structure", "badge", "tag", "children", "condition"] := rfl
    rw [heq]
    decide
  have hcheck : theme brokenTheme =
      [⟨[.field "tokenPrefix"], .unmet .nonEmptyText⟩,
        ⟨[.field "runes", .field "Hint", .field "staticModifiers", .index 1], .unmet .text⟩,
        ⟨[.field "runes", .field "Hint", .field "structure", .field "badge", .field "children",
          .index 1, .field "tag"], .unmet .requiredText⟩,
        ⟨[.field "runes", .field "Hint", .field "structure", .field "badge", .field "children",
          .index 1, .field "condition"], .dangling (.modifier "level" [])⟩] := by
    cbv
  refine ⟨hwell, hnames, List.mem_cons_self, ?_, ?_,
    diagnostic_path hwell hnames List.mem_cons_self⟩
  · rw [hcheck]
    rfl
  · rw [hcheck]
    rfl

end Check

end Livery
