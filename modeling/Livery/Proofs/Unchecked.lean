import Livery.Loading
import Livery.Proofs.Children

/-!
# Unchecked fields

The check of a configuration passes over some of the fields that its decoder reads.
`Unchecked.theme`, `Unchecked.layout` and `Unchecked.manifest` are the shapes that decoding asks of
these fields. A configuration without errors is decoded exactly if it has them
(`decodes_iff_of_valid`), and there are configurations without errors that have not
(`valid_without_decoding`).

For each part of a configuration there is one lemma on what its decoder accepts where the check of
this part finds no error : everything, or what the shape of the unchecked fields says.
-/

namespace Livery

open Json (accepts)
open Json.Shape
open Check hiding object given

/-! ## The shapes -/

namespace Unchecked

open Json (Shape isText)

/-- Fields that are absent, `null` or texts. -/
def texts (keys : List String) (fields : Entries Json) : Bool :=
  keys.all fun key => given fields key (nullable isText)

mutual

/-- A text, or an object with fields as described, and the same of all its children. -/
def nested (own : Entries Json → Bool) : Json → Bool
  | .obj fields => own fields && nestedField own fields
  | .str _ => true
  | _ => false

/-- The children among the fields of an object. -/
def nestedField (own : Entries Json → Bool) : List (String × Json) → Bool
  | [] => true
  | (key, v) :: rest => if key = "children" then nestedArray own v else nestedField own rest

/-- The children of an object. -/
def nestedArray (own : Entries Json → Bool) : Json → Bool
  | .arr l => nestedItems own l
  | _ => false

/-- A list of children. -/
def nestedItems (own : Entries Json → Bool) : List Json → Bool
  | [] => true
  | v :: rest => nested own v && nestedItems own rest

end

/-! ### Themes -/

/-- The value of an attribute of a synthesized element. -/
def attrSource : Shape := fun v =>
  v.isText || object (fun fields => present fields "fromModifier" isText) v

/-- A synthesized element, its children apart. -/
def entryFields (fields : Entries Json) : Bool :=
  texts ["ref", "metaText", "textPrefix", "textSuffix"] fields &&
    given fields "before" flag && given fields "attrs" (values attrSource)

/-- How one component type is dressed. -/
def rune : Shape := object fun fields =>
  texts ["parent"] fields && given fields "structure" (values (nested entryFields)) &&
    given fields "rootAttributes" (values isText)

/-- A theme. -/
def theme : Shape := object fun fields => given fields "runes" (values rune)

/-! ### Layouts -/

/-- A date format. -/
def dateFormat : Shape := record ["weekday", "year", "month", "day"] fun fields =>
  given fields "weekday" (nullable (named ["long", "short", "narrow"])) &&
    given fields "year" (nullable (named ["numeric", "2-digit"])) &&
    given fields "month" (nullable (named ["numeric", "2-digit", "long", "short", "narrow"])) &&
    given fields "day" (nullable (named ["numeric", "2-digit"]))

/-- A fragment, its children apart. -/
def fragmentFields (fields : Entries Json) : Bool :=
  texts ["condition"] fields && given fields "dateFormat" (nullable dateFormat) &&
    given fields "iterate" (object (texts ["class"]))

/-- A widget. -/
def widget : Shape := object fun fields =>
  given fields "visibility" (nullable
    (record ["frontmatterToggle", "minCount"] fun visibility =>
      texts ["frontmatterToggle"] visibility &&
        given visibility "minCount" (nullable (below (Nat.pow 2 64)))))

/-- A slot, its children apart. -/
def slotFields (fields : Entries Json) : Bool :=
  given fields "conditional" flag && given fields "wrapper" (object (texts ["class"]))

mutual

/-- A child of a slot : a text, a slot or a fragment. -/
def slotChild : Json → Bool
  | .obj fields =>
    if SlotChild.isSlot fields then slotFields fields && slotField fields
    else nested fragmentFields (.obj fields)
  | .str _ => true
  | _ => false

/-- The children among the fields of a slot. -/
def slotField : List (String × Json) → Bool
  | [] => true
  | (key, v) :: rest => if key = "children" then slotArray v else slotField rest

/-- The children of a slot. -/
def slotArray : Json → Bool
  | .arr l => slotItems l
  | _ => false

/-- A list of children. -/
def slotItems : List Json → Bool
  | [] => true
  | v :: rest => slotChild v && slotItems rest

end

/-- A slot. -/
def slot : Shape := object fun fields => slotFields fields && slotField fields

/-- A layout. -/
def layout : Shape := object fun fields =>
  given fields "slots" (values slot) && given fields "chrome" (values (nested fragmentFields)) &&
    given fields "computed" (values widget)

/-! ### Manifests -/

/-- A layout that a theme ships. -/
def layoutDefinition : Shape := object fun fields =>
  given fields "regions" (items isText) && given fields "requiredRegions" (items isText)

/-- A component that a theme ships. -/
def component : Shape := object fun fields =>
  given fields "propMapping" (values isText) && given fields "acceptsChildren" (nullable flag) &&
    given fields "contextOverrides"
      (values (record ["component"] fun replacement => present replacement "component" isText))

/-- A manifest. -/
def manifest : Shape := object fun fields =>
  texts ["description", "fallbackComponent"] fields &&
    given fields "layouts" (values layoutDefinition) &&
    given fields "components" (values component) &&
    given fields "unsupportedRuneBehavior"
      (nullable (named ["fallback", "passthrough", "hide"]))

/-! ### Children -/

theorem nestedItems_eq (own : Entries Json → Bool) :
    ∀ l, nestedItems own l = l.all (nested own)
  | [] => rfl
  | v :: rest => by rw [nestedItems, nestedItems_eq own rest, List.all_cons]

theorem nestedField_eq (own : Entries Json → Bool) (fields : Entries Json) :
    nestedField own fields = given fields "children" (items (nested own)) := by
  refine Json.children_shaped (g := nestedArray own) rfl ?_ ?_
  · exact fun _ _ _ => by rw [nestedField]
  · funext v
    cases v with
    | arr l => exact nestedItems_eq own l
    | _ => rfl

theorem slotItems_eq : ∀ l, slotItems l = l.all slotChild
  | [] => rfl
  | v :: rest => by rw [slotItems, slotItems_eq rest, List.all_cons]

theorem slotField_eq (fields : Entries Json) :
    slotField fields = given fields "children" (items slotChild) := by
  refine Json.children_shaped (g := slotArray) rfl ?_ ?_
  · exact fun _ _ _ => by rw [slotField]
  · funext v
    cases v with
    | arr l => exact slotItems_eq l
    | _ => rfl

end Unchecked

/-! ## Themes -/

theorem accepts_modifierSource {v : Json} (h : Demand.modifierSource.holds (some v) = true) :
    accepts ModifierSource.ofJson? v = true := by
  cases v with
  | str s =>
    simp only [Demand.holds, Option.bind_some, Json.asText?, Option.any_some, Bool.or_eq_true,
      decide_eq_true_eq] at h
    rcases h with rfl | rfl <;> rfl
  | _ => cases h

theorem accepts_modifierSpec {v : Json} (h : errorFree (modifierSpec v) = true) :
    accepts ModifierSpec.ofJson? v = true := by
  rw [modifierSpec, errorFree_object] at h
  obtain ⟨fields, rfl, hfields⟩ := object_iff.mp h
  simp only [errorFree_append, errorFree_field, errorFree_given, errorFree_demand,
    Bool.and_eq_true] at hfields
  have hsource := present_of_met (p := Demand.modifierSource.holds) rfl
    (fun _ => accepts_modifierSource) hfields.1
  have hdefault : given fields "default" (nullable Json.isText) = true :=
    given_nullable (fun _ hv => hv) hfields.2
  simp [accepts, ModifierSpec.ofJson?, Option.isSome_bind, hsource, hdefault]

theorem accepts_contentWrapper {v : Json} (h : errorFree (contentWrapper v) = true) :
    accepts ContentWrapper.ofJson? v = true := by
  rw [contentWrapper, errorFree_object] at h
  obtain ⟨fields, rfl, hfields⟩ := object_iff.mp h
  simp only [errorFree_append, errorFree_requiredText, Bool.and_eq_true] at hfields
  have htag := present_of_isNonEmptyText hfields.1
  have hlabel := present_of_isNonEmptyText hfields.2
  simp [accepts, ContentWrapper.ofJson?, Option.isSome_bind, htag, hlabel]

theorem accepts_style {v : Json} (h : errorFree (styleSpec v) = true) :
    accepts StyleSpec.ofJson? v = true := by
  cases v with
  | str s => rfl
  | obj fields =>
    rw [styleSpec, errorFree_demand] at h
    obtain ⟨hprop, htemplate⟩ : present fields "prop" Json.isText = true ∧
        present fields "template" Json.isText = true := by
      simpa [Demand.holds, Demand.hasTexts, Json.asFields?] using h
    simp [accepts, StyleSpec.ofJson?, Option.isSome_bind, hprop, htemplate]
  | _ => cases h

theorem accepts_icon {groups : List String} {v : Json}
    (h : errorFree (Check.object (.objectWith "group and variant") (icon groups) v) = true) :
    accepts IconRef.ofJson? v = true := by
  rw [errorFree_object] at h
  obtain ⟨fields, rfl, hfields⟩ := object_iff.mp h
  simp only [icon, errorFree_append, errorFree_field, errorFree_demand, Bool.and_eq_true] at hfields
  have hgroup := present_of_textOr .text _ hfields.1
  have hvariant : present fields "variant" Json.isText = true := hfields.2
  simp [accepts, IconRef.ofJson?, Option.isSome_bind, hgroup, hvariant]

theorem accepts_transform {v : Json} (h : v.isText = true) :
    accepts TextTransform.ofJson? v = true := by
  cases v with
  | str s => rfl
  | _ => cases h

theorem isText_of_textThen {check : String → List Finding} {v : Json}
    (h : errorFree (textThen check v) = true) : v.isText = true := by
  cases v with
  | str s => rfl
  | _ => cases h

theorem items_text_of_conditionAny {modifiers : List String} {v : Json}
    (h : errorFree (array .textArray (conditionAny modifiers) v) = true) :
    items Json.isText v = true := by
  cases v with
  | arr l =>
    rw [array, conditionAny, errorFree_flatMap, List.all_eq_true] at h
    refine items_iff.mpr ⟨l, rfl, fun w hw => ?_⟩
    have hitem := h w hw
    cases w with
    | str s => rfl
    | _ => cases hitem
  | _ => cases h

theorem accepts_attrSource : accepts AttrSource.ofJson? = Unchecked.attrSource := by
  funext v
  cases v with
  | obj fields =>
    simp [accepts, AttrSource.ofJson?, Unchecked.attrSource, object, Json.isText, Json.asText?]
  | _ => rfl

/-- The fields of a synthesized element, whatever its children are. -/
theorem isSome_entry {modifiers groups : List String} {fields : Entries Json}
    (h : errorFree (structureFields modifiers groups fields) = true)
    (children : List StructureChild) :
    (StructureEntry.ofFields? fields children).isSome = Unchecked.entryFields fields := by
  simp only [structureFields, errorFree_append, errorFree_requiredText, errorFree_given,
    Bool.and_eq_true] at h
  obtain ⟨⟨⟨⟨htag, hcondition⟩, hany⟩, htransform⟩, hicon⟩ := h
  have htag := present_of_isNonEmptyText htag
  have hcondition := given_nullable (fun _ => isText_of_textThen) hcondition
  have hany := given_nullable (fun _ => items_text_of_conditionAny) hany
  have htransform :=
    given_nullable (fun _ hv => accepts_transform (isText_of_textThen hv)) htransform
  have hicon := given_nullable (fun _ => accepts_icon) hicon
  simp [StructureEntry.ofFields?, Option.isSome_bind, Unchecked.entryFields, Unchecked.texts, htag,
    hcondition, hany, htransform, hicon, accepts_attrSource, Bool.and_assoc, Bool.and_left_comm]

/-- Children that are checked one by one have one of two shapes exactly if they have the other, if
this holds of each of them that passes. -/
theorem children_congr {check : Json → List Finding} {s s' : Json.Shape} {fields : Entries Json}
    (hchecked : errorFree (Check.given fields "children" (array .array (eachItem check))) = true)
    (h : ∀ l, fields.lookup "children" = some (.arr l) → ∀ v ∈ l, errorFree (check v) = true →
      s v = s' v) :
    given fields "children" (items s) = given fields "children" (items s') := by
  rw [errorFree_given] at hchecked
  refine given_congr hchecked fun v hv hc => ?_
  rw [errorFree_items] at hc
  obtain ⟨l, rfl, -⟩ := items_iff.mp hc
  exact items_congr hc (h l hv)

theorem accepts_structureChild {modifiers groups : List String} :
    ∀ v, errorFree (structureChild modifiers groups v) = true →
      accepts StructureEntry.childOfJson? v = Unchecked.nested Unchecked.entryFields v := by
  refine Json.childInduct ?_ ?_
  · intro fields ih h
    simp only [structureChild, Json.isText, Json.asText?, Option.isSome_none, Bool.false_eq_true,
      if_false, structureEntry, errorFree_append, Bool.and_eq_true] at h
    obtain ⟨hfields, hchildren⟩ := h
    rw [structureChildrenField_eq] at hchildren
    have hown := isSome_entry hfields
    have hbelow := children_congr hchildren ih
    simp [accepts, StructureEntry.childOfJson?, StructureEntry.childrenOfFields?_eq,
      Option.isSome_bind, hown, hbelow, Unchecked.nested, Unchecked.nestedField_eq, Bool.and_comm]
  · intro v hv h
    cases v with
    | str s => rfl
    | obj fields => cases hv
    | _ => cases h

theorem accepts_structureEntry {modifiers groups : List String} {v : Json}
    (h : errorFree (structureEntry modifiers groups v) = true) :
    accepts StructureEntry.ofJson? v = Unchecked.nested Unchecked.entryFields v := by
  cases v with
  | obj fields =>
    rw [← accepts_structureChild (.obj fields) h]
    simp [accepts, StructureEntry.ofJson?, StructureEntry.childOfJson?, Option.isSome_bind]
  | _ => cases h

theorem accepts_rune {groups : List String} {v : Json} (h : errorFree (rune groups v) = true) :
    accepts Rune.ofJson? v = Unchecked.rune v := by
  rw [rune, errorFree_object] at h
  obtain ⟨fields, rfl, hfields⟩ := object_iff.mp h
  simp only [errorFree_append, errorFree_requiredText, errorFree_givenTexts, errorFree_given,
    errorFree_values, errorFree_items, errorFree_demand, Bool.and_eq_true] at hfields
  obtain ⟨⟨⟨⟨⟨⟨⟨hblock, hmodifiers⟩, hcontext⟩, hstatic⟩, hlabels⟩, hwrapper⟩, hstyles⟩,
    hscaffold⟩ := hfields
  have hblock := present_of_isNonEmptyText hblock
  have hmodifiers := given_mono (fun _ => values_mono fun _ => accepts_modifierSpec) hmodifiers
  have hstatic : given fields "staticModifiers" (items Json.isText) = true := hstatic
  have hwrapper := given_nullable (fun _ => accepts_contentWrapper) hwrapper
  have hstyles := given_mono (fun _ => values_mono fun _ => accepts_style) hstyles
  have hscaffold := given_congr hscaffold fun _ _ hc =>
    values_congr hc fun _ => accepts_structureEntry
  simp [accepts, Rune.ofJson?, Option.isSome_bind, Unchecked.rune, object, Unchecked.texts, hblock,
    hmodifiers, hcontext, hstatic, hlabels, hwrapper, hstyles, hscaffold, Bool.and_assoc]

theorem accepts_icons {v : Json}
    (h : errorFree (Check.object .object (eachField iconVariants) v) = true) :
    accepts Theme.iconsOfJson? v = true := by
  rw [errorFree_values] at h
  rw [Theme.iconsOfJson?, Json.accepts_dict, Json.accepts_dict, Json.accepts_text]
  refine values_mono (fun w hw => ?_) h
  simp only [iconVariants, errorFree_values, errorFree_demand] at hw
  exact hw

/-- A theme without errors is decoded exactly if its unchecked fields have the right shapes. -/
theorem accepts_theme {v : Json} (h : errorFree (theme v) = true) :
    accepts Theme.ofJson? v = Unchecked.theme v := by
  rw [theme, errorFree_object] at h
  obtain ⟨fields, rfl, hfields⟩ := object_iff.mp h
  simp only [errorFree_append, errorFree_field, errorFree_demand, errorFree_given, errorFree_values,
    Bool.and_eq_true] at hfields
  obtain ⟨⟨⟨⟨hclass, htokens⟩, hicons⟩, -⟩, hrunes⟩ := hfields
  have hclass := present_of_isNonEmptyText hclass
  have htokens : given fields "tokenPrefix" Json.isText = true := by
    obtain ⟨v, hv, htext⟩ := present_iff.mp (present_of_isNonEmptyText htokens)
    rw [given, hv]
    exact htext
  have hicons : given fields "icons" (accepts Theme.iconsOfJson?) = true :=
    given_mono (fun _ hv => accepts_icons (by rw [errorFree_values]; exact hv)) hicons
  have hrunes := given_congr hrunes fun _ _ hc => values_congr hc fun _ => accepts_rune
  simp [accepts, Theme.ofJson?, Option.isSome_bind, Unchecked.theme, object, hclass, htokens,
    hicons, hrunes]

/-! ## Manifests -/

theorem accepts_layoutDefinition {v : Json} (h : errorFree (layoutDefinition v) = true) :
    accepts LayoutDefinition.ofJson? v = Unchecked.layoutDefinition v := by
  rw [layoutDefinition, errorFree_object] at h
  obtain ⟨fields, rfl, hfields⟩ := object_iff.mp h
  simp only [errorFree_append, errorFree_requiredText, Bool.and_eq_true] at hfields
  have hcomponent := present_of_isNonEmptyText hfields.1
  simp [accepts, LayoutDefinition.ofJson?, Option.isSome_bind, Unchecked.layoutDefinition, object,
    hcomponent]

theorem accepts_componentDefinition {v : Json} (h : errorFree (componentDefinition v) = true) :
    accepts ComponentDefinition.ofJson? v = Unchecked.component v := by
  rw [componentDefinition, errorFree_object] at h
  obtain ⟨fields, rfl, hfields⟩ := object_iff.mp h
  rw [errorFree_requiredText] at hfields
  have hcomponent := present_of_isNonEmptyText hfields
  have hreplacement : accepts ComponentDefinition.overrideOfJson? =
      record ["component"] fun replacement => present replacement "component" Json.isText := by
    simp [ComponentDefinition.overrideOfJson?]
  simp [accepts, ComponentDefinition.ofJson?, Option.isSome_bind, Unchecked.component, object,
    hcomponent, hreplacement, Bool.and_assoc]

theorem accepts_routeRule {layouts : List String} {v : Json}
    (h : errorFree (routeRule layouts v) = true) : accepts RouteRule.ofJson? v = true := by
  rw [routeRule, errorFree_object] at h
  obtain ⟨fields, rfl, hfields⟩ := object_iff.mp h
  simp only [errorFree_append, errorFree_requiredText, errorFree_field,
    Bool.and_eq_true] at hfields
  have hpattern := present_of_isNonEmptyText hfields.1
  have hlayout := present_of_textOr .requiredText _ hfields.2
  simp [accepts, RouteRule.ofJson?, Option.isSome_bind, hpattern, hlayout]

/-- A manifest without errors is decoded exactly if its unchecked fields have the right shapes. -/
theorem accepts_manifest {v : Json} (h : errorFree (manifest v) = true) :
    accepts Manifest.ofJson? v = Unchecked.manifest v := by
  rw [manifest, errorFree_object] at h
  obtain ⟨fields, rfl, hfields⟩ := object_iff.mp h
  simp only [errorFree_append, errorFree_requiredText, errorFree_given, errorFree_values,
    errorFree_items, Bool.and_eq_true] at hfields
  obtain ⟨⟨⟨⟨⟨⟨hname, hversion⟩, htarget⟩, htokens⟩, hlayouts⟩, hrules⟩, hcomponents⟩ := hfields
  have hname := present_of_isNonEmptyText hname
  have hversion := present_of_isNonEmptyText hversion
  have htarget := present_of_isNonEmptyText htarget
  have htokens := present_of_isNonEmptyText htokens
  have hlayouts := given_congr hlayouts fun _ _ hc =>
    values_congr hc fun _ => accepts_layoutDefinition
  have hrules := given_mono (fun _ => items_mono fun _ => accepts_routeRule) hrules
  have hcomponents := given_congr hcomponents fun _ _ hc =>
    values_congr hc fun _ => accepts_componentDefinition
  have hbehaviors : Entries.keys UnsupportedBehavior.names = ["fallback", "passthrough", "hide"] :=
    rfl
  simp [accepts, Manifest.ofJson?, Option.isSome_bind, Unchecked.manifest, object, Unchecked.texts,
    hname, hversion, htarget, htokens, hlayouts, hrules, hcomponents, hbehaviors, Bool.and_assoc,
    Bool.and_comm, Bool.and_left_comm]

/-! ## Layouts -/

theorem accepts_chromeAttr {v : Json} (h : errorFree (chromeAttr v) = true) :
    accepts ChromeAttr.ofJson? v = true := by
  rw [chromeAttr, errorFree_demand] at h
  cases v with
  | str s => rfl
  | obj fields =>
    have hpath : present fields "fromPageData" Json.isText = true := by
      simpa [Demand.holds, Demand.hasTexts, Json.asFields?, Json.isText, Json.asText?] using h
    simp [accepts, ChromeAttr.ofJson?, hpath]
  | _ => cases h

theorem accepts_iteration {v : Json} (h : errorFree (iteration v) = true) :
    accepts Iteration.ofJson? v = object (Unchecked.texts ["class"]) v := by
  rw [iteration, errorFree_object] at h
  obtain ⟨fields, rfl, hfields⟩ := object_iff.mp h
  simp only [errorFree_append, errorFree_requiredText, Bool.and_eq_true] at hfields
  have hsource := present_of_isNonEmptyText hfields.1
  have htag := present_of_isNonEmptyText hfields.2
  simp [accepts, Iteration.ofJson?, Option.isSome_bind, object, Unchecked.texts, hsource, htag]

theorem accepts_dateFormat : accepts DateFormat.ofJson? = Unchecked.dateFormat := by
  have hnames : Entries.keys NameStyle.names = ["long", "short", "narrow"] := rfl
  have hnumbers : Entries.keys NumberStyle.names = ["numeric", "2-digit"] := rfl
  have hmonths : Entries.keys MonthStyle.names =
      ["numeric", "2-digit", "long", "short", "narrow"] := rfl
  simp [DateFormat.ofJson?, Option.isSome_bind, Unchecked.dateFormat, hnames, hnumbers, hmonths,
    Bool.and_assoc]

/-- The fields of a fragment, whatever its children are. -/
theorem isSome_fragment {fields : Entries Json} (h : errorFree (chromeFields fields) = true)
    (children : List ChromeChild) :
    (Chrome.ofFields? fields children).isSome = Unchecked.fragmentFields fields := by
  simp only [chromeFields, errorFree_append, errorFree_requiredText, errorFree_flatMap,
    errorFree_givenText, errorFree_given, errorFree_values, Bool.and_eq_true, List.all_eq_true] at h
  obtain ⟨⟨⟨htag, htexts⟩, hattrs⟩, hiterate⟩ := h
  have htag := present_of_isNonEmptyText htag
  have htext : ∀ key ∈ ["ref", "svg", "pageText", "pageCondition", "textPrefix", "textSuffix"],
      given fields key (nullable Json.isText) = true :=
    fun key hkey => given_nullable (fun _ hv => hv) (htexts key hkey)
  have hattrs := given_mono (fun _ => values_mono fun _ => accepts_chromeAttr) hattrs
  have hiterate : given fields "iterate" (nullable (accepts Iteration.ofJson?)) =
      given fields "iterate" (object (Unchecked.texts ["class"])) := by
    refine given_congr hiterate fun v _ hv => ?_
    rw [← accepts_iteration hv]
    cases v with
    | null => cases hv
    | _ => rfl
  have hdate := accepts_dateFormat
  simp only [List.mem_cons, List.not_mem_nil, or_false, forall_eq_or_imp, forall_eq] at htext
  simp [Chrome.ofFields?, Option.isSome_bind, Unchecked.fragmentFields, Unchecked.texts, htag,
    htext, hattrs, hiterate, hdate, Bool.and_assoc]

theorem accepts_chromeChild :
    ∀ v, errorFree (chromeChild v) = true →
      accepts Chrome.childOfJson? v = Unchecked.nested Unchecked.fragmentFields v := by
  refine Json.childInduct ?_ ?_
  · intro fields ih h
    simp only [chromeChild, Json.isText, Json.asText?, Option.isSome_none, Bool.false_eq_true,
      if_false, chromeEntry, errorFree_append, Bool.and_eq_true] at h
    obtain ⟨hfields, hchildren⟩ := h
    rw [chromeChildrenField_eq] at hchildren
    have hown := isSome_fragment hfields
    have hbelow := children_congr hchildren ih
    simp [accepts, Chrome.childOfJson?, Chrome.childrenOfFields?_eq, Option.isSome_bind, hown,
      hbelow, Unchecked.nested, Unchecked.nestedField_eq, Bool.and_comm]
  · intro v hv h
    cases v with
    | str s => rfl
    | obj fields => cases hv
    | _ => cases h

theorem accepts_chromeEntry {v : Json} (h : errorFree (chromeEntry v) = true) :
    accepts Chrome.ofJson? v = Unchecked.nested Unchecked.fragmentFields v := by
  cases v with
  | obj fields =>
    rw [← accepts_chromeChild (.obj fields) h]
    simp [accepts, Chrome.ofJson?, Chrome.childOfJson?, Option.isSome_bind]
  | _ => cases h

theorem accepts_tocOptions {v : Json} (h : errorFree (tocOptions v) = true) :
    accepts TocOptions.ofJson? v = true := by
  rw [tocOptions, errorFree_object] at h
  obtain ⟨fields, rfl, hfields⟩ := object_iff.mp h
  have hlevel : ∀ v, Demand.headingLevel.holds (some v) = true →
      accepts (Json.decodeBelow (Nat.pow 2 8)) v = true := by
    intro v hv
    rw [Json.accepts_below]
    cases v with
    | num n =>
      cases n with
      | int i =>
        have hi : 0 ≤ i ∧ i < 7 := by
          simpa [Demand.holds, Demand.maxHeadingLevel, Json.decodeBelow,
            Json.Number.below?] using hv
        have hbound : i < ((Nat.pow 2 8 : Nat) : Int) := Int.lt_trans hi.2 (by decide)
        rw [below, Json.Number.below?, if_pos ⟨hi.1, hbound⟩]
        rfl
      | float x => cases hv
    | _ => cases hv
  simp only [errorFree_flatMap, errorFree_given, errorFree_demand, List.all_cons, List.all_nil,
    Bool.and_true, Bool.and_eq_true] at hfields
  have hmin := given_nullable hlevel hfields.1
  have hmax := given_nullable hlevel hfields.2
  simp only [accepts, TocOptions.ofJson?, Json.decodeRecord_obj, Option.bind_eq_bind,
    Option.isSome_bind, any_const, Json.isSome_optional, Option.isSome_some, Bool.and_true,
    Bool.and_eq_true]
  exact ⟨hmin, hmax⟩

theorem accepts_widget {v : Json} (h : errorFree (widget v) = true) :
    accepts Widget.ofJson? v = Unchecked.widget v := by
  rw [widget, errorFree_object] at h
  obtain ⟨fields, rfl, hfields⟩ := object_iff.mp h
  simp only [errorFree_append, errorFree_field, errorFree_givenText, errorFree_given,
    errorFree_demand, Bool.and_eq_true] at hfields
  obtain ⟨⟨hkind, hsource⟩, hoptions⟩ := hfields
  have hkind : present fields "type" (named (Entries.keys WidgetKind.names)) = true :=
    present_of_met (p := Demand.widgetKind.holds) rfl (fun _ hv => hv) hkind
  have hoptions := given_nullable (fun _ => accepts_tocOptions) hoptions
  have hvisibility : accepts Visibility.ofJson? =
      record ["frontmatterToggle", "minCount"] fun visibility =>
        Unchecked.texts ["frontmatterToggle"] visibility &&
          given visibility "minCount" (nullable (below (Nat.pow 2 64))) := by
    simp [Visibility.ofJson?, Option.isSome_bind, Unchecked.texts]
  simp [accepts, Widget.ofJson?, Option.isSome_bind, Unchecked.widget, object, hkind, hsource,
    hoptions, hvisibility]

theorem accepts_regionModifier {v : Json} (h : errorFree (regionModifier v) = true) :
    accepts RegionModifier.ofJson? v = true := by
  rw [regionModifier, errorFree_object] at h
  obtain ⟨fields, rfl, hfields⟩ := object_iff.mp h
  simp only [errorFree_append, errorFree_requiredText, Bool.and_eq_true] at hfields
  have hregion := present_of_isNonEmptyText hfields.1
  have hmodifier := present_of_isNonEmptyText hfields.2
  simp [accepts, RegionModifier.ofJson?, Option.isSome_bind, hregion, hmodifier]

theorem accepts_widgetModifier {ds : Declarations} {v : Json}
    (h : errorFree (widgetModifier ds v) = true) : accepts WidgetModifier.ofJson? v = true := by
  rw [widgetModifier, errorFree_object] at h
  obtain ⟨fields, rfl, hfields⟩ := object_iff.mp h
  simp only [errorFree_append, errorFree_requiredText, errorFree_field,
    Bool.and_eq_true] at hfields
  have hmodifier := present_of_isNonEmptyText hfields.1
  have hwidget := present_of_textOr .text ds.widgetReference hfields.2
  simp [accepts, WidgetModifier.ofJson?, Option.isSome_bind, hwidget, hmodifier]

theorem accepts_slotWrapper {ds : Declarations} {v : Json}
    (h : errorFree (slotWrapper ds v) = true) :
    accepts SlotWrapper.ofJson? v = object (Unchecked.texts ["class"]) v := by
  rw [slotWrapper, errorFree_object] at h
  obtain ⟨fields, rfl, hfields⟩ := object_iff.mp h
  simp only [errorFree_append, errorFree_requiredText, errorFree_given,
    Bool.and_eq_true] at hfields
  have htag := present_of_isNonEmptyText hfields.1
  have hmodifier := given_nullable (fun _ => accepts_widgetModifier) hfields.2
  simp [accepts, SlotWrapper.ofJson?, Option.isSome_bind, object, Unchecked.texts, htag, hmodifier]

theorem isText_of_slotSource {ds : Declarations} {v : Json}
    (h : errorFree (slotSource ds v) = true) : v.isText = true := by
  cases v with
  | str s => rfl
  | _ => cases h

/-- The fields of a slot, whatever its children are. -/
theorem isSome_slot {ds : Declarations} {fields : Entries Json}
    (h : errorFree (Check.slotFields ds fields) = true) (children : List SlotChild) :
    (Slot.ofFields? fields children).isSome = Unchecked.slotFields fields := by
  simp only [Check.slotFields, errorFree_append, errorFree_requiredText, errorFree_flatMap,
    errorFree_givenText, errorFree_givenTexts, errorFree_given, Bool.and_eq_true,
    List.all_eq_true] at h
  obtain ⟨⟨⟨⟨⟨htag, hsource⟩, htexts⟩, hattrs⟩, hmodifier⟩, hwrapper⟩ := h
  have htag := present_of_isNonEmptyText htag
  have hsource := given_nullable (fun _ => isText_of_slotSource) hsource
  have htext : ∀ key ∈ ["class", "frontmatterCondition", "conditionalRegion"],
      given fields key (nullable Json.isText) = true :=
    fun key hkey => given_nullable (fun _ hv => hv) (htexts key hkey)
  have hmodifier := given_nullable (fun _ => accepts_regionModifier) hmodifier
  have hwrapper : given fields "wrapper" (nullable (accepts SlotWrapper.ofJson?)) =
      given fields "wrapper" (object (Unchecked.texts ["class"])) := by
    refine given_congr hwrapper fun v _ hv => ?_
    rw [← accepts_slotWrapper hv]
    cases v with
    | null => cases hv
    | _ => rfl
  simp only [List.mem_cons, List.not_mem_nil, or_false, forall_eq_or_imp, forall_eq] at htext
  simp [Slot.ofFields?, Option.isSome_bind, Unchecked.slotFields, htag, hsource, htext, hattrs,
    hmodifier, hwrapper]

theorem accepts_slotChild {ds : Declarations} :
    ∀ v, errorFree (slotChild ds v) = true →
      accepts Slot.childOfJson? v = Unchecked.slotChild v := by
  refine Json.childInduct ?_ ?_
  · intro fields ih h
    rw [slotChild] at h
    rw [accepts, Slot.childOfJson?, Unchecked.slotChild]
    split_ifs at h ⊢ with hslot
    · rw [errorFree_append, Bool.and_eq_true, slotChildrenField_eq] at h
      have hown := isSome_slot h.1
      have hbelow := children_congr h.2 ih
      simp [Slot.childrenOfFields?_eq, Option.isSome_bind, hown, hbelow, Unchecked.slotField_eq,
        Bool.and_comm]
    · rw [Option.isSome_map]
      exact accepts_chromeEntry h
  · intro v hv h
    cases v with
    | str s =>
      rw [accepts, Slot.childOfJson?, Unchecked.slotChild]
      split <;> rfl
    | obj fields => cases hv
    | _ => cases h

theorem accepts_slot {ds : Declarations} {v : Json} (h : errorFree (slot ds v) = true) :
    accepts Slot.ofJson? v = Unchecked.slot v := by
  cases v with
  | obj fields =>
    rw [slot, errorFree_append, Bool.and_eq_true, slotChildrenField_eq] at h
    have hown := isSome_slot h.1
    have hbelow := children_congr h.2 fun _ _ v _ => accepts_slotChild v
    simp [accepts, Slot.ofJson?, Slot.childrenOfFields?_eq, Option.isSome_bind, hown, hbelow,
      Unchecked.slot, object, Unchecked.slotField_eq, Bool.and_comm]
  | _ => cases h

/-- A layout without errors is decoded exactly if its unchecked fields have the right shapes. -/
theorem accepts_layout {v : Json} (h : errorFree (layout v) = true) :
    accepts Layout.ofJson? v = Unchecked.layout v := by
  rw [layout, errorFree_object] at h
  obtain ⟨fields, rfl, hfields⟩ := object_iff.mp h
  simp only [errorFree_append, errorFree_requiredText, errorFree_givenText, errorFree_field,
    errorFree_given, errorFree_values, errorFree_demand, Bool.and_eq_true] at hfields
  obtain ⟨⟨⟨⟨⟨⟨hblock, htag⟩, hbehaviors⟩, hchrome⟩, hwidgets⟩, -⟩, hslots⟩ := hfields
  have hblock := present_of_isNonEmptyText hblock
  have htag : given fields "tag" (nullable Json.isText) = true :=
    given_nullable (fun _ hv => hv) htag
  have hbehaviors : given fields "behaviors" (items Json.isText) = true :=
    given_mono (fun v hv => by
      cases v with
      | arr l => exact hv
      | _ => cases hv) hbehaviors
  have hchrome := given_congr hchrome fun _ _ hc => values_congr hc fun _ => accepts_chromeEntry
  have hwidgets := given_congr hwidgets fun _ _ hc => values_congr hc fun _ => accepts_widget
  have hslots := given_congr hslots fun _ _ hc => values_congr hc fun _ => accepts_slot
  simp [accepts, Layout.ofJson?, Option.isSome_bind, Unchecked.layout, object, hblock, htag,
    hbehaviors, hchrome, hwidgets, hslots, Bool.and_assoc]

/-! ## Loading -/

section

variable {α : Type} {check : Json → List Finding} {decode : Json → Option α}
  {unchecked : Json.Shape}

/-- A check that stands for a decoder up to some fields lets a value through to the decoder that the
decoder refuses exactly if the value is wrong in these fields. -/
theorem load_undecodable_iff
    (h : ∀ v, errorFree (check v) = true → accepts decode v = unchecked v) (format : Format)
    (text : String) :
    load check decode format text = .error .undecodable ↔
      ∃ v, format.parse? text = some v ∧ (Report.mk (check v)).valid = true ∧
        unchecked v = false := by
  rw [load]
  cases hparse : format.parse? text with
  | none => simp
  | some v =>
    by_cases hvalid : (Report.mk (check v)).valid = true
    · have haccepts := h v (by rwa [← valid_eq])
      rw [accepts] at haccepts
      cases hdecode : decode v <;> simp_all
    · simp [hvalid]

end

/--
A configuration without errors is decoded exactly if the fields that its check passes over have the
shapes that decoding asks of them; so loading fails in decoding exactly at the texts of
configurations without errors that have not.
-/
theorem decodes_iff_of_valid (v : Json) :
    ((Report.mk (Check.theme v)).valid = true →
      ((Theme.ofJson? v).isSome = true ↔ Unchecked.theme v = true)) ∧
    ((Report.mk (Check.layout v)).valid = true →
      ((Layout.ofJson? v).isSome = true ↔ Unchecked.layout v = true)) ∧
    ((Report.mk (Check.manifest v)).valid = true →
      ((Manifest.ofJson? v).isSome = true ↔ Unchecked.manifest v = true)) ∧
    ∀ (format : Format) (text : String),
      (loadTheme format text = .error .undecodable ↔
        ∃ w, format.parse? text = some w ∧ (Report.mk (Check.theme w)).valid = true ∧
          Unchecked.theme w = false) ∧
      (loadLayout format text = .error .undecodable ↔
        ∃ w, format.parse? text = some w ∧ (Report.mk (Check.layout w)).valid = true ∧
          Unchecked.layout w = false) ∧
      (loadManifest format text = .error .undecodable ↔
        ∃ w, format.parse? text = some w ∧ (Report.mk (Check.manifest w)).valid = true ∧
          Unchecked.manifest w = false) := by
  refine ⟨?_, ?_, ?_, fun format text => ⟨?_, ?_, ?_⟩⟩
  · intro hvalid
    rw [← accepts_theme (by rwa [← valid_eq]), accepts]
  · intro hvalid
    rw [← accepts_layout (by rwa [← valid_eq]), accepts]
  · intro hvalid
    rw [← accepts_manifest (by rwa [← valid_eq]), accepts]
  · exact load_undecodable_iff (fun _ => accepts_theme) format text
  · exact load_undecodable_iff (fun _ => accepts_layout) format text
  · exact load_undecodable_iff (fun _ => accepts_manifest) format text

/-! ## A field passed over in each check -/

/-- A theme of hints with an attribute at their root. -/
def hintConfig (tabindex : Json) : Json :=
  .obj [("prefix", .str "rf"), ("tokenPrefix", .str "--rf"), ("runes", .obj [("Hint", .obj
    [("block", .str "hint"), ("rootAttributes", .obj [("tabindex", tabindex)])])])]

/-- A layout with one slot, which is conditional or not. -/
def pageConfig (conditional : Json) : Json :=
  .obj [("block", .str "page"), ("slots", .obj [("main", .obj
    [("tag", .str "main"), ("source", .str "content"), ("conditional", conditional)])])]

/-- A manifest with a description. -/
def themeManifest (description : Json) : Json :=
  .obj [("name", .str "plain"), ("version", .str "1.0.0"), ("target", .str "html"),
    ("designTokens", .str "tokens.css"), ("description", description)]

/-- Where the fields that are passed over are right, configurations without errors are decoded. -/
theorem decodes_of_checked :
    (Theme.ofJson? (hintConfig (.str "0"))).isSome = true ∧
    (Layout.ofJson? (pageConfig (.bool true))).isSome = true ∧
    (Manifest.ofJson? (themeManifest (.str "A plain theme."))).isSome = true :=
  ⟨((decodes_iff_of_valid _).1 (by rfl)).mpr (by rfl),
    ((decodes_iff_of_valid _).2.1 (by rfl)).mpr (by rfl),
    ((decodes_iff_of_valid _).2.2.1 (by rfl)).mpr (by rfl)⟩

/-- Each check finds nothing wrong with some configuration that is not decoded, and so the text of a
theme is read and checked and yet not loaded. -/
theorem valid_without_decoding :
    (Check.theme (hintConfig (Json.ofNat 0)) = [] ∧
      Theme.ofJson? (hintConfig (Json.ofNat 0)) = none) ∧
    (Check.layout (pageConfig (.str "yes")) = [] ∧
      Layout.ofJson? (pageConfig (.str "yes")) = none) ∧
    (Check.manifest (themeManifest (Json.ofNat 5)) = [] ∧
      Manifest.ofJson? (themeManifest (Json.ofNat 5)) = none) ∧
    loadTheme .json
      ("\x7b\"prefix\":\"rf\",\"tokenPrefix\":\"--rf\",\"runes\":\x7b\"Hint\":\x7b\"block\":\"hint\"," ++
        "\"rootAttributes\":\x7b\"tabindex\":0\x7d\x7d\x7d\x7d") =
      .error .undecodable := by
  refine ⟨⟨by rfl, by rfl⟩, ⟨by rfl, by rfl⟩, ⟨by rfl, by rfl⟩, ?_⟩
  exact (load_undecodable_iff (fun _ => accepts_theme) .json _).mpr
    ⟨hintConfig (Json.ofNat 0), by rfl, by rfl, by rfl⟩

end Livery
