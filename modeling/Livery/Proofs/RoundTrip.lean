import Livery.Layout.Coding
import Livery.Manifest.Coding
import Livery.Proofs.Fragments
import Livery.Proofs.Restoring
import Livery.Proofs.Texts

/-!
# Configurations restored

What is decoded from a configuration is decoded again from what is written for it. Most types are
restored whatever they hold (`Manifest.restored`, `Chrome.restored`), and themes if they have no
hooks (`Theme.restored`). A slot has to come from a decoder : its source was read from a text that
is not empty, and no text among its children begins like a reference. So have the numbers of a
widget, which are below a bound (`Slot.readAgain`, `Widget.readAgain`).

A child of a slot is written with its kind, and the kind decides how it is read, whatever the other
fields look like (`SlotChild.isSlot_of_kind`). `Slot.childOfJson?_readAgain` goes down the arrays of
children of the value that the child was decoded from.
-/

namespace Livery

open Json (decodeRecord_obj decodeRecord_eq_some required_restored required_text
  defaulted_restored optional_restored optional_readAgain optional_text defaulted_flag
  defaulted_items defaulted_texts defaulted_dict defaulted_textDict)

/-! ## Themes -/

theorem ModifierSource.restored (s : ModifierSource) : ofJson? s.toJson = some s := by
  cases s <;> rfl

theorem ContentWrapper.restored (w : ContentWrapper) : ofJson? w.toJson = some w := rfl

theorem IconRef.restored (i : IconRef) : ofJson? i.toJson = some i := rfl

theorem AttrSource.restored (a : AttrSource) : ofJson? a.toJson = some a := by
  cases a <;> rfl

/-- The transform of an unknown name is written as a name that is unknown. -/
theorem TextTransform.restored (f : TextTransform) : ofJson? f.toJson = some f := by
  cases f <;> rfl

theorem StyleSpec.restored (s : StyleSpec) : ofJson? s.toJson = some s := by
  cases s <;> rfl

theorem ModifierSpec.restored (m : ModifierSpec) : ofJson? m.toJson = some m := by
  refine Json.record_restored (by simp [Entries.keys]) fun fields h => ?_
  rw [ofJson?, decodeRecord_obj, required_restored m.source.restored (h "source" _ rfl),
    optional_text (h "default" _ rfl)]
  rfl

namespace StructureEntry

/-- The value that describes a child of an entry. -/
def childToJson : StructureChild → Json
  | .text s => .str s
  | .entry e => e.toJson

theorem childrenToJson_eq : ∀ l : List StructureChild, childrenToJson l = l.map childToJson
  | [] => by simp [childrenToJson]
  | .text s :: rest => by simp [childrenToJson, childToJson, childrenToJson_eq rest]
  | .entry e :: rest => by simp [childrenToJson, childToJson, childrenToJson_eq rest]

theorem isText_toJson (e : StructureEntry) : e.toJson.isText = false := by
  cases e
  rw [toJson]
  rfl

theorem restored (e : StructureEntry) : ofJson? e.toJson = some e := by
  induction e using induct with
  | h e ih =>
    obtain ⟨tag, label, before, condition, conditionAny, icon, metaText, transform, textPrefix,
      textSuffix, attrs, children⟩ := e
    have hchildren : ∀ c ∈ children, childOfJson? (childToJson c) = some c := by
      intro c hc
      cases c with
      | text s => rfl
      | entry x => rw [childToJson, childOfJson?_eq x.isText_toJson, ih x hc, Option.map_some]
    rw [toJson, childrenToJson_eq]
    refine Json.record_restored (by simp [Entries.keys]) fun fields h => ?_
    rw [ofJson?, decodeRecord_obj, childrenOfFields?_eq,
      defaulted_items hchildren (h "children" _ rfl), Option.bind_some, ofFields?,
      required_text (h "tag" _ rfl), optional_text (h "ref" _ rfl),
      defaulted_flag (h "before" _ rfl), optional_text (h "condition" _ rfl),
      optional_restored rfl (fun l _ => Json.decodeTexts_restored l) (h "conditionAny" _ rfl),
      optional_restored rfl (fun i _ => i.restored) (h "icon" _ rfl),
      optional_text (h "metaText" _ rfl),
      optional_restored rfl (fun f _ => f.restored) (h "transform" _ rfl),
      optional_text (h "textPrefix" _ rfl), optional_text (h "textSuffix" _ rfl),
      defaulted_dict (fun a _ => a.restored) (h "attrs" _ rfl)]
    rfl

end StructureEntry

namespace Rune

theorem hook_of_ofJson? {v : Json} {r : Rune} (h : ofJson? v = some r) : r.hook = none := by
  obtain ⟨_, -, h⟩ := decodeRecord_eq_some h
  simp only [Option.bind_eq_bind, Option.bind_eq_some_iff, Option.some.injEq] at h
  obtain ⟨_, _, _, _, _, _, _, _, _, _, _, _, _, _, _, _, _, _, _, _, rfl⟩ := h
  rfl

/-- Hooks are not written. -/
theorem restored {r : Rune} (hr : r.hook = none) : ofJson? r.toJson = some r := by
  refine Json.record_restored (by simp [Entries.keys]) fun fields h => ?_
  rw [ofJson?, decodeRecord_obj, required_text (h "block" _ rfl),
    optional_text (h "parent" _ rfl),
    defaulted_dict (fun m _ => m.restored) (h "modifiers" _ rfl),
    defaulted_textDict (h "contextModifiers" _ rfl), defaulted_texts (h "staticModifiers" _ rfl),
    defaulted_textDict (h "autoLabel" _ rfl),
    optional_restored rfl (fun w _ => w.restored) (h "contentWrapper" _ rfl),
    defaulted_dict (fun e _ => e.restored) (h "structure" _ rfl),
    defaulted_dict (fun s _ => s.restored) (h "styles" _ rfl),
    defaulted_textDict (h "rootAttributes" _ rfl)]
  cases r
  subst hr
  rfl

end Rune

namespace Theme

theorem icons_restored (icons : Icons) :
    iconsOfJson? (.obj (icons.mapValues fun _ variants => Json.ofTexts variants).entries) =
      some icons :=
  Json.decodeDict_restored fun _ _ => Json.decodeDict_restored fun s _ => Json.decodeText_restored s

theorem restored {t : Theme} (ht : ∀ r ∈ t.runes.values, r.hook = none) :
    ofJson? t.toJson = some t := by
  rw [toJson, ofJson?, decodeRecord_obj, required_text rfl,
    defaulted_restored (Json.decodeText_restored _) rfl,
    defaulted_restored (icons_restored t.icons) rfl,
    defaulted_restored (Json.decodeDict_restored fun r hr => Rune.restored (ht r hr)) rfl]
  rfl

end Theme

/-! ## Manifests -/

theorem LayoutDefinition.restored (l : LayoutDefinition) : ofJson? l.toJson = some l := by
  refine Json.record_restored (by simp [Entries.keys]) fun fields h => ?_
  rw [ofJson?, decodeRecord_obj, required_text (h "component" _ rfl),
    defaulted_restored (Json.decodeTexts_restored l.regions) (h "regions" _ rfl),
    defaulted_texts (h "requiredRegions" _ rfl)]
  rfl

namespace ComponentDefinition

theorem override_restored (component : String) :
    overrideOfJson? (overrideToJson component) = some component := rfl

theorem restored (c : ComponentDefinition) : ofJson? c.toJson = some c := by
  refine Json.record_restored (by simp [Entries.keys]) fun fields h => ?_
  rw [ofJson?, decodeRecord_obj, required_text (h "component" _ rfl),
    defaulted_textDict (h "propMapping" _ rfl),
    optional_restored rfl (fun b _ => Json.decodeBool_restored b) (h "acceptsChildren" _ rfl),
    defaulted_dict (fun s _ => override_restored s) (h "contextOverrides" _ rfl)]
  rfl

end ComponentDefinition

theorem UnsupportedBehavior.restored (b : UnsupportedBehavior) :
    Json.decodeCase names (.str b.toText) = some b := by
  cases b <;> rfl

theorem RouteRule.restored (r : RouteRule) : ofJson? r.toJson = some r := rfl

theorem Manifest.restored (m : Manifest) : ofJson? m.toJson = some m := by
  refine Json.record_restored (by simp [Entries.keys]) fun fields h => ?_
  rw [ofJson?, decodeRecord_obj, required_text (h "name" _ rfl), required_text (h "version" _ rfl),
    optional_text (h "description" _ rfl), required_text (h "target" _ rfl),
    required_text (h "designTokens" _ rfl),
    defaulted_restored (Json.decodeDict_restored fun l _ => l.restored) (h "layouts" _ rfl),
    defaulted_items (fun r _ => r.restored) (h "routeRules" _ rfl),
    defaulted_restored (Json.decodeDict_restored fun c _ => c.restored) (h "components" _ rfl),
    optional_restored rfl (fun b _ => b.restored) (h "unsupportedRuneBehavior" _ rfl),
    optional_text (h "fallbackComponent" _ rfl)]
  rfl

/-! ## Fragments -/

theorem NameStyle.restored (s : NameStyle) : Json.decodeCase names (.str s.toText) = some s := by
  cases s <;> rfl

theorem NumberStyle.restored (s : NumberStyle) :
    Json.decodeCase names (.str s.toText) = some s := by
  cases s <;> rfl

/-- The names of the two kinds of styles for months do not meet. -/
theorem MonthStyle.restored (s : MonthStyle) : Json.decodeCase names (.str s.toText) = some s := by
  rcases s with (_ | _) | (_ | _ | _) <;> rfl

theorem DateFormat.restored (f : DateFormat) : ofJson? f.toJson = some f := by
  refine Json.record_restored (by simp [Entries.keys]) fun fields h => ?_
  rw [ofJson?, decodeRecord_obj,
    optional_restored rfl (fun s _ => s.restored) (h "weekday" _ rfl),
    optional_restored rfl (fun s _ => s.restored) (h "year" _ rfl),
    optional_restored rfl (fun s _ => s.restored) (h "month" _ rfl),
    optional_restored rfl (fun s _ => s.restored) (h "day" _ rfl)]
  rfl

theorem ChromeAttr.restored (a : ChromeAttr) : ofJson? a.toJson = some a := by
  cases a <;> rfl

theorem Iteration.restored (i : Iteration) : ofJson? i.toJson = some i := by
  refine Json.record_restored (by simp [Entries.keys]) fun fields h => ?_
  rw [ofJson?, decodeRecord_obj, required_text (h "source" _ rfl), required_text (h "tag" _ rfl),
    optional_text (h "class" _ rfl)]
  rfl

namespace Chrome

/-- The value that describes a child of a fragment. -/
def childToJson : ChromeChild → Json
  | .text s => .str s
  | .entry c => c.toJson

theorem childrenToJson_eq (l : List ChromeChild) : childrenToJson l = l.map childToJson := by
  induction l with
  | nil => simp [childrenToJson]
  | cons x rest ih =>
    cases x with
    | text s => simp [childrenToJson, childToJson, ih]
    | entry c => simp [childrenToJson, childToJson, toJson, ih]

theorem keys_toFields (c : Chrome) : Entries.keys c.toFields =
    ["tag", "ref", "attrs", "svg", "pageText", "pageCondition", "condition", "dateFormat",
      "textPrefix", "textSuffix", "iterate", "children"] := by
  cases c
  rw [toFields]
  rfl

/-- A fragment is read from its fields, whatever other fields there are. -/
theorem fields_restored {c : Chrome} (hc : ∀ x ∈ c.children, childOfJson? (childToJson x) = some x)
    {fields : Entries Json}
    (h : ∀ key w, List.lookup key c.toFields = some w → fields.lookup key = w) :
    ofJson? (.obj fields) = some c := by
  obtain ⟨tag, label, attrs, markup, pageText, pageCondition, condition, dateFormat, textPrefix,
    textSuffix, iteration, children⟩ := c
  rw [toFields, childrenToJson_eq] at h
  rw [ofJson?, decodeRecord_obj, childrenOfFields?_eq, defaulted_items hc (h "children" _ rfl),
    Option.bind_some, ofFields?, required_text (h "tag" _ rfl), optional_text (h "ref" _ rfl),
    defaulted_dict (fun a _ => a.restored) (h "attrs" _ rfl), optional_text (h "svg" _ rfl),
    optional_text (h "pageText" _ rfl), optional_text (h "pageCondition" _ rfl),
    optional_text (h "condition" _ rfl),
    optional_restored rfl (fun f _ => f.restored) (h "dateFormat" _ rfl),
    optional_text (h "textPrefix" _ rfl), optional_text (h "textSuffix" _ rfl),
    optional_restored rfl (fun i _ => i.restored) (h "iterate" _ rfl)]
  rfl

theorem children_restored (c : Chrome) :
    ∀ x ∈ c.children, childOfJson? (childToJson x) = some x := by
  induction c using induct with
  | h c ih =>
    intro x hx
    cases x with
    | text s => rfl
    | entry y =>
      have hy : ofJson? y.toJson = some y :=
        Json.record_restored (by rw [keys_toFields]; decide) fun _ => fields_restored (ih y hx)
      have htext : y.toJson.isText = false := rfl
      rw [childToJson, childOfJson?_eq htext, hy, Option.map_some]

theorem restored (c : Chrome) : ofJson? c.toJson = some c :=
  Json.record_restored (by rw [keys_toFields]; decide) fun _ => fields_restored c.children_restored

end Chrome

/-! ## Widgets -/

theorem WidgetKind.restored (k : WidgetKind) : Json.decodeCase names (.str k.toText) = some k := by
  cases k <;> rfl

/-- A number that was read below a bound is read below it again. -/
theorem Json.below_readAgain {bound : ℕ} (v : Json) (n : ℕ)
    (h : Json.decodeBelow bound v = some n) : Json.decodeBelow bound (Json.ofNat n) = some n :=
  Json.decodeBelow_restored (Json.lt_of_decodeBelow h)

theorem TocOptions.readAgain (v : Json) (o : TocOptions) (ho : ofJson? v = some o) :
    ofJson? o.toJson = some o := by
  obtain ⟨_, -, ho⟩ := decodeRecord_eq_some ho
  simp only [Option.bind_eq_bind, Option.bind_eq_some_iff, Option.some.injEq] at ho
  obtain ⟨minLevel, hmin, maxLevel, hmax, rfl⟩ := ho
  refine Json.record_restored (by simp [Entries.keys]) fun fields h => ?_
  rw [ofJson?, decodeRecord_obj,
    optional_readAgain rfl Json.below_readAgain hmin (h "minLevel" _ rfl),
    optional_readAgain rfl Json.below_readAgain hmax (h "maxLevel" _ rfl)]
  rfl

theorem Visibility.readAgain (v : Json) (x : Visibility) (hx : ofJson? v = some x) :
    ofJson? x.toJson = some x := by
  obtain ⟨_, -, hx⟩ := decodeRecord_eq_some hx
  simp only [Option.bind_eq_bind, Option.bind_eq_some_iff, Option.some.injEq] at hx
  obtain ⟨toggle, -, minCount, hcount, rfl⟩ := hx
  refine Json.record_restored (by simp [Entries.keys]) fun fields h => ?_
  rw [ofJson?, decodeRecord_obj, optional_text (h "frontmatterToggle" _ rfl),
    optional_readAgain rfl Json.below_readAgain hcount (h "minCount" _ rfl)]
  rfl

theorem Widget.readAgain (v : Json) (w : Widget) (hw : ofJson? v = some w) :
    ofJson? w.toJson = some w := by
  obtain ⟨_, -, hw⟩ := decodeRecord_eq_some hw
  simp only [Option.bind_eq_bind, Option.bind_eq_some_iff, Option.some.injEq] at hw
  obtain ⟨kind, -, source, -, options, hoptions, visibility, hvisibility, rfl⟩ := hw
  refine Json.record_restored (by simp [Entries.keys]) fun fields h => ?_
  rw [ofJson?, decodeRecord_obj, required_restored kind.restored (h "type" _ rfl),
    defaulted_restored (Json.decodeText_restored source) (h "source" _ rfl),
    optional_readAgain rfl TocOptions.readAgain hoptions (h "options" _ rfl),
    optional_readAgain rfl Visibility.readAgain hvisibility (h "visibility" _ rfl)]
  rfl

/-! ## Slots -/

theorem RegionModifier.restored (m : RegionModifier) : ofJson? m.toJson = some m := rfl

theorem WidgetModifier.restored (m : WidgetModifier) : ofJson? m.toJson = some m := rfl

theorem SlotWrapper.restored (w : SlotWrapper) : ofJson? w.toJson = some w := by
  refine Json.record_restored (by simp [Entries.keys]) fun fields h => ?_
  rw [ofJson?, decodeRecord_obj, required_text (h "tag" _ rfl), optional_text (h "class" _ rfl),
    optional_restored rfl (fun m _ => m.restored) (h "conditionalModifier" _ rfl)]
  rfl

/-- A source is written as the specifier that it was read from. -/
theorem Source.ofText?_render {text : String} {x : Source} (h : ofText? text = some x) :
    ofText? x.render = some x := by
  rw [ofText?, Option.ite_none_left_eq_some, Option.some.injEq] at h
  obtain ⟨hne, rfl⟩ := h
  rw [render_parse, ofText?, if_neg hne]

/-- The kind of a child decides, whatever the other fields are. -/
theorem SlotChild.isSlot_of_kind {fields : Entries Json} {kind : String} {b : Bool}
    (h : fields.lookup "kind" = some (.str kind))
    (hkind : (kind, b) ∈ [("slot", true), ("chrome", false)]) : isSlot fields = b := by
  rcases List.mem_pair.mp hkind with heq | heq <;> cases heq <;> rw [isSlot, h] <;> rfl

namespace Slot

theorem childrenToJson_eq : ∀ l : List SlotChild, childrenToJson l = l.map childToJson
  | [] => by simp [childrenToJson]
  | c :: rest => by simp [childrenToJson, childrenToJson_eq rest]

theorem keys_toFields (s : Slot) : Entries.keys s.toFields =
    ["tag", "class", "source", "conditional", "frontmatterCondition", "conditionalRegion",
      "conditionalModifier", "wrapper", "attrs", "children"] := by
  cases s
  rw [toFields]
  rfl

/-- Of a slot that was read, the source comes from a text and the children from the items of an
array. -/
theorem of_ofJson? {fields : Entries Json} {s : Slot} (h : ofJson? (.obj fields) = some s) :
    (∀ x, s.source = some x → Source.ofText? x.render = some x) ∧
      ∀ c ∈ s.children, ∃ items, fields.lookup "children" = some (.arr items) ∧
        ∃ v ∈ items, childOfJson? v = some c := by
  obtain ⟨children, hchildren, hs⟩ := Option.bind_eq_some_iff.mp h
  rw [childrenOfFields?_eq] at hchildren
  simp only [ofFields?, Option.bind_eq_bind, Option.bind_eq_some_iff, Option.some.injEq] at hs
  obtain ⟨_, -, _, -, source, -, _, -, _, -, _, -, _, -, _, -, _, -, rfl⟩ := hs
  refine ⟨fun x hx => ?_, fun c hc => Json.exists_of_mem_items hchildren hc⟩
  obtain ⟨text, -, htext⟩ := Option.bind_eq_some_iff.mp hx
  exact Source.ofText?_render htext

/-- A slot is read from its fields, whatever other fields there are. -/
theorem fields_restored {s : Slot}
    (hsource : ∀ x, s.source = some x → Source.ofText? x.render = some x)
    (hchildren : ∀ c ∈ s.children, childOfJson? (childToJson c) = some c) {fields : Entries Json}
    (h : ∀ key w, List.lookup key s.toFields = some w → fields.lookup key = w) :
    ofJson? (.obj fields) = some s := by
  obtain ⟨tag, classes, source, conditional, frontmatterCondition, conditionalRegion, modifier,
    wrapper, attrs, children⟩ := s
  rw [toFields, childrenToJson_eq] at h
  have htext : Json.optional Json.decodeText fields "source" = some (source.map Source.render) :=
    optional_text (by rw [h "source" _ rfl, Json.ofText?, Option.map_map]; rfl)
  have hsource' : (source.map Source.render).bind Source.ofText? = source := by
    cases source with
    | none => rfl
    | some x => exact hsource x rfl
  rw [ofJson?, decodeRecord_obj, childrenOfFields?_eq,
    defaulted_items hchildren (h "children" _ rfl), Option.bind_some, ofFields?,
    required_text (h "tag" _ rfl), optional_text (h "class" _ rfl),
    htext, defaulted_flag (h "conditional" _ rfl),
    optional_text (h "frontmatterCondition" _ rfl), optional_text (h "conditionalRegion" _ rfl),
    optional_restored rfl (fun m _ => m.restored) (h "conditionalModifier" _ rfl),
    optional_restored rfl (fun w _ => w.restored) (h "wrapper" _ rfl),
    defaulted_textDict (h "attrs" _ rfl)]
  simp only [Option.bind_eq_bind, Option.bind_some, hsource']

theorem childOfJson?_obj {fields : Entries Json} (h : SlotChild.isSlot fields = true) :
    childOfJson? (.obj fields) = (ofJson? (.obj fields)).map .slot := by
  rw [childOfJson?, if_pos h, ofJson?, decodeRecord_obj, Option.map_bind]
  rfl

/-- A slot among children is written with its kind. -/
theorem slot_restored {s : Slot}
    (hsource : ∀ x, s.source = some x → Source.ofText? x.render = some x)
    (hchildren : ∀ c ∈ s.children, childOfJson? (childToJson c) = some c) :
    childOfJson? (childToJson (.slot s)) = some (.slot s) := by
  rw [childToJson]
  refine Json.record_kind_restored (by rw [keys_toFields]; decide)
    (by rw [keys_toFields]; decide) fun fields hkind h => ?_
  rw [childOfJson?_obj (SlotChild.isSlot_of_kind hkind List.mem_cons_self),
    fields_restored hsource hchildren h, Option.map_some]

/-- So is a fragment. -/
theorem entry_restored (c : Chrome) :
    childOfJson? (childToJson (.entry c)) = some (.entry c) := by
  rw [childToJson]
  refine Json.record_kind_restored (by rw [Chrome.keys_toFields]; decide)
    (by rw [Chrome.keys_toFields]; decide) fun fields hkind h => ?_
  have hnot : SlotChild.isSlot fields = false :=
    SlotChild.isSlot_of_kind hkind (List.mem_cons_of_mem _ List.mem_cons_self)
  rw [childOfJson?, hnot, if_neg Bool.false_ne_true,
    Chrome.fields_restored c.children_restored h, Option.map_some]

/-- What is read as a child of a slot is read again as the same child, however deep it is. -/
theorem childOfJson?_readAgain (v : Json) :
    ∀ c, childOfJson? v = some c → childOfJson? (childToJson c) = some c := by
  induction v using Json.childInduct with
  | object fields ih =>
    intro c hc
    cases hslot : SlotChild.isSlot fields with
    | true =>
      rw [childOfJson?_obj hslot] at hc
      obtain ⟨s, hs, rfl⟩ := Option.map_eq_some_iff.mp hc
      obtain ⟨hsource, hchildren⟩ := of_ofJson? hs
      refine slot_restored hsource fun x hx => ?_
      obtain ⟨items, hitems, w, hw, hread⟩ := hchildren x hx
      exact ih items hitems w hw x hread
    | false =>
      rw [childOfJson?, hslot, if_neg Bool.false_ne_true] at hc
      obtain ⟨x, -, rfl⟩ := Option.map_eq_some_iff.mp hc
      exact entry_restored x
  | other v hv =>
    intro c hc
    cases v with
    | str s =>
      rw [childOfJson?] at hc
      cases hname : Text.behind? "chrome:" s with
      | some name =>
        rw [hname] at hc
        cases hc
        rw [childToJson, childOfJson?, Text.behind?_append]
      | none =>
        rw [hname] at hc
        cases hc
        rw [childToJson, childOfJson?, hname]
    | obj fields => cases hv
    | _ => cases hc

theorem readAgain (v : Json) (s : Slot) (hs : ofJson? v = some s) : ofJson? s.toJson = some s := by
  obtain ⟨_, -, hs⟩ := decodeRecord_eq_some hs
  obtain ⟨hsource, hchildren⟩ := of_ofJson? hs
  refine Json.record_restored (by rw [keys_toFields]; decide) fun _ =>
    fields_restored hsource fun x hx => ?_
  obtain ⟨items, -, w, -, hread⟩ := hchildren x hx
  exact childOfJson?_readAgain w x hread

end Slot

/-! ## Configurations -/

theorem Layout.readAgain (v : Json) (l : Layout) (hl : ofJson? v = some l) :
    ofJson? l.toJson = some l := by
  obtain ⟨_, -, hl⟩ := decodeRecord_eq_some hl
  simp only [Option.bind_eq_bind, Option.bind_eq_some_iff, Option.some.injEq] at hl
  obtain ⟨block, -, tag, -, behaviors, -, slots, hslots, chrome, -, widgets, hwidgets, rfl⟩ := hl
  have hslots' : ∀ s ∈ slots.values, Slot.ofJson? s.toJson = some s := by
    intro s hs
    obtain ⟨w, hw⟩ := Json.exists_of_mem_defaulted hslots hs
    exact s.readAgain w hw
  have hwidgets' : ∀ x ∈ widgets.values, Widget.ofJson? x.toJson = some x := by
    intro x hx
    obtain ⟨w, hw⟩ := Json.exists_of_mem_defaulted hwidgets hx
    exact x.readAgain w hw
  refine Json.record_restored (by simp [Entries.keys]) fun fields h => ?_
  rw [ofJson?, decodeRecord_obj, required_text (h "block" _ rfl), optional_text (h "tag" _ rfl),
    defaulted_texts (h "behaviors" _ rfl),
    defaulted_restored (Json.decodeDict_restored hslots') (h "slots" _ rfl),
    defaulted_dict (fun c _ => c.restored) (h "chrome" _ rfl),
    defaulted_dict hwidgets' (h "computed" _ rfl)]
  rfl

theorem Theme.readAgain (v : Json) (t : Theme) (ht : ofJson? v = some t) :
    ofJson? t.toJson = some t := by
  obtain ⟨_, -, ht⟩ := decodeRecord_eq_some ht
  simp only [Option.bind_eq_bind, Option.bind_eq_some_iff, Option.some.injEq] at ht
  obtain ⟨classPrefix, -, tokenPrefix, -, icons, -, runes, hrunes, rfl⟩ := ht
  refine restored fun r hr => ?_
  obtain ⟨w, hw⟩ := Json.exists_of_mem_defaulted hrunes hr
  exact Rune.hook_of_ofJson? hw

/--
Writing a configuration and reading it again changes nothing : what is decoded from any value as a
layout, a theme or a manifest is decoded again from what is written for it, with the order of all
maps and lists. The same holds for each child of a slot by itself, which so keeps its kind. And
every specifier of a source is written as it was.
-/
theorem configuration_restored :
    (∀ v l, Layout.ofJson? v = some l → Layout.ofJson? l.toJson = some l) ∧
    (∀ v t, Theme.ofJson? v = some t → Theme.ofJson? t.toJson = some t) ∧
    (∀ v m, Manifest.ofJson? v = some m → Manifest.ofJson? m.toJson = some m) ∧
    (∀ v c, SlotChild.ofJson? v = some c → SlotChild.ofJson? c.toJson = some c) ∧
    ∀ text, (Source.parse text).render = text :=
  ⟨Layout.readAgain, Theme.readAgain, fun _ m _ => m.restored, Slot.childOfJson?_readAgain,
    Source.render_parse⟩

/-- A layout whose slot has a slot without fields of its own, a fragment, a reference and a text as
its children. -/
def nestedLayout : Layout where
  block := "page"
  slots := .ofList [("main",
    { tag := "main", source := some (.region "nav")
      wrapper := some { tag := "div", classes := some "inner" }
      children := [.slot { tag := "div" }, .entry { tag := "div" }, .chrome "menu", .text "a"] })]

/-- The value of `nestedLayout` in which only the first child tells its kind, and the wrapper is an
array of its fields. -/
def nestedLayoutConfig : Json :=
  .obj [("block", .str "page"), ("slots", .obj [("main", .obj
    [("tag", .str "main"), ("source", .str "region:nav"),
      ("wrapper", .arr [.str "div", .str "inner"]), ("children", .arr
      [.obj [("tag", .str "div"), ("kind", .str "slot")], .obj [("tag", .str "div")],
        .str "chrome:menu", .str "a"])])])]

theorem configuration_restored_nestedLayout :
    Layout.ofJson? nestedLayoutConfig = some nestedLayout ∧
    Layout.ofJson? nestedLayout.toJson = some nestedLayout := by
  have hread : Layout.ofJson? nestedLayoutConfig = some nestedLayout := by rfl
  exact ⟨hread, configuration_restored.1 _ _ hread⟩

end Livery
