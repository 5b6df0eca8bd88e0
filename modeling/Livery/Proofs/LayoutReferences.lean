import Livery.Proofs.Warnings

/-!
# References of layouts

A slot refers to widgets and fragments of its layout : by its source, by the modifier of its
wrapper and by its children. `Layout.references` lists the references of a layout in the order of
its slots, and `Layout.dangling` keeps those that lead nowhere. `Layout.reports` says that these are
what the check of the layout warns about.

The check reads the undecoded value, so the lemmas go along both readings at once : part by part,
what the check finds in a value is compared with the references of what is decoded from it.
-/

namespace Livery

/-- What a slot refers to. -/
inductive SlotReference
  | widget (name : String)
  | chrome (name : String)
  /-- A source of no known form. -/
  | source (text : String)
deriving DecidableEq

/-- The problem that a reference is if it dangles. -/
def SlotReference.problem : SlotReference → Dangling
  | .widget name => .widget name
  | .chrome name => .chrome name
  | .source text => .source text

/-! ## The references of a slot -/

/-- The reference of a source. -/
def Source.references : Source → Mentions SlotReference
  | .computed name => [([], .widget name)]
  | .chrome name => [([], .chrome name)]
  | .unknown text => [([], .source text)]
  | _ => []

/-- The reference of the modifier of a wrapper. -/
def WidgetModifier.references (m : WidgetModifier) : Mentions SlotReference :=
  .inside (.field "computed") [([], .widget m.widget)]

/-- The references of a wrapper. -/
def SlotWrapper.references (w : SlotWrapper) : Mentions SlotReference :=
  .inside (.field "conditionalModifier") (w.modifier.toList.flatMap WidgetModifier.references)

mutual

/-- The references of a slot : of its source, of its wrapper and of its children, in this order. -/
def Slot.references : Slot → Mentions SlotReference
  | ⟨_, _, source, _, _, _, _, wrapper, _, children⟩ =>
    .inside (.field "source") (source.toList.flatMap Source.references) ++
    .inside (.field "wrapper") (wrapper.toList.flatMap SlotWrapper.references) ++
    .inside (.field "children") (childReferences 0 children)

/-- The references of a child of a slot. -/
def SlotChild.references : SlotChild → Mentions SlotReference
  | .chrome name => [([], .chrome name)]
  | .text _ => []
  | .slot s => Slot.references s
  | .entry _ => []

/-- The references of children from an index on. -/
def childReferences : Nat → List SlotChild → Mentions SlotReference
  | _, [] => []
  | i, c :: rest => .inside (.index i) (SlotChild.references c) ++ childReferences (i + 1) rest

end

theorem childReferences_eq (i : Nat) : ∀ l : List SlotChild, childReferences i l =
    (l.zipIdx i).flatMap fun p => p.1.references.inside (.index p.2) := by
  intro l
  induction l generalizing i with
  | nil => rfl
  | cons c rest ih => rw [childReferences, ih, List.zipIdx_cons, List.flatMap_cons]

theorem Slot.references_eq (s : Slot) : s.references =
    .inside (.field "source") (s.source.toList.flatMap Source.references) ++
    .inside (.field "wrapper") (s.wrapper.toList.flatMap SlotWrapper.references) ++
    .inside (.field "children")
      (s.children.zipIdx.flatMap fun p => p.1.references.inside (.index p.2)) := by
  rw [← childReferences_eq]
  cases s
  rw [references]

namespace Layout

/-- The references of a layout, slot by slot. -/
def references (l : Layout) : Mentions SlotReference :=
  .inside (.field "slots")
    (l.slots.entries.flatMap fun p => p.2.references.inside (.field p.1))

/-- Whether a layout does not declare what a reference names. -/
def dangles (l : Layout) : SlotReference → Bool
  | .widget name => !l.widgets.contains name
  | .chrome name => !l.chrome.contains name
  | .source _ => true

/-- The references of a layout that dangle. -/
def dangling (l : Layout) : Mentions SlotReference := l.references.filter fun p => l.dangles p.2

end Layout

/-! ## What the check of a layout reports -/

namespace Check

theorem warned_chromeAttr (v : Json) : warned (chromeAttr v) = [] := warned_demand _ _

theorem warned_iteration (v : Json) : warned (iteration v) = [] :=
  warned_object (fun fields => by simp) v

theorem warned_chromeFields (fields : Entries Json) : warned (chromeFields fields) = [] := by
  simp [chromeFields, warned_values warned_chromeAttr, warned_iteration]

/-- Fragments refer to nothing. -/
theorem warned_chromeChild : ∀ v, warned (chromeChild v) = [] := by
  refine Json.childInduct ?_ ?_
  · intro fields ih
    have hchildren : warned (chromeChildrenField fields) = [] := by
      rw [chromeChildrenField_eq, warned_given, given]
      cases hv : fields.lookup "children" with
      | none => rfl
      | some v =>
        cases v with
        | arr l => exact congrArg (inside _) (warned_eachItem (ih l hv))
        | _ => rfl
    rw [chromeChild]
    simp [Json.isText, Json.asText?, chromeEntry, warned_chromeFields, hchildren]
  · intro v hv
    cases v with
    | obj fields => cases hv
    | _ => rfl

theorem warned_chromeEntry (v : Json) : warned (chromeEntry v) = [] := by
  cases v with
  | obj fields => exact warned_chromeChild (.obj fields)
  | _ => rfl

theorem warned_tocOptions (v : Json) : warned (tocOptions v) = [] :=
  warned_object (fun fields => by simp) v

theorem warned_widget (v : Json) : warned (widget v) = [] :=
  warned_object (fun fields => by simp [warned_tocOptions]) v

theorem warned_regionModifier (v : Json) : warned (regionModifier v) = [] :=
  warned_object (fun fields => by simp) v

/-- Whether some declarations lack what a reference names. -/
def Declarations.dangles (ds : Declarations) : SlotReference → Bool
  | .widget name => !ds.widgets.contains name
  | .chrome name => !ds.chrome.contains name
  | .source _ => true

/-- The findings report the references that dangle. -/
abbrev Declarations.Reports (ds : Declarations) : List Finding → Mentions SlotReference → Prop :=
  Livery.Reports ds.dangles fun r d => d = r.problem

section

variable {ds : Declarations}

theorem reports_widgetReference (name : String) :
    ds.Reports (warned (ds.widgetReference name)) [([], .widget name)] :=
  .reference _ rfl fun _ => rfl

theorem reports_chromeReference (name : String) :
    ds.Reports (warned (ds.chromeReference name)) [([], .chrome name)] :=
  .reference _ rfl fun _ => rfl

theorem reports_slotSource {v : Json} {text : String} (h : Json.decodeText v = some text) :
    ds.Reports (warned (slotSource ds v))
      ((Source.ofText? text).toList.flatMap Source.references) := by
  obtain rfl := Json.eq_str_of_asText? h
  rw [slotSource, Source.ofText?]
  split
  · exact .nil
  · rw [Option.toList_some, List.flatMap_singleton]
    cases Source.parse text with
    | computed name => exact reports_widgetReference name
    | chrome name => exact reports_chromeReference name
    | unknown text => exact .reference false rfl fun _ => rfl
    | _ => exact .nil

theorem reports_widgetModifier {v : Json} {m : WidgetModifier}
    (hvalid : errorFree (widgetModifier ds v) = true) (h : WidgetModifier.ofJson? v = some m) :
    ds.Reports (warned (widgetModifier ds v)) m.references := by
  cases v with
  | obj fields =>
    simp only [WidgetModifier.ofJson?, Json.decodeRecord_obj, Option.bind_eq_bind,
      Option.bind_eq_some_iff, Option.some.injEq] at h
    obtain ⟨name, hname, modifier, -, rfl⟩ := h
    rw [widgetModifier, object, warned_append, warned_requiredText, List.nil_append, warned_field,
      Json.lookup_of_required_text hname]
    exact (reports_widgetReference name).inside _
  | _ => cases hvalid

theorem reports_slotWrapper {v : Json} {w : SlotWrapper}
    (hvalid : errorFree (slotWrapper ds v) = true) (h : SlotWrapper.ofJson? v = some w) :
    ds.Reports (warned (slotWrapper ds v)) w.references := by
  cases v with
  | obj fields =>
    simp only [SlotWrapper.ofJson?, Json.decodeRecord_obj, Option.bind_eq_bind,
      Option.bind_eq_some_iff, Option.some.injEq] at h
    obtain ⟨tag, -, classes, -, modifier, hmodifier, rfl⟩ := h
    rw [slotWrapper, object, errorFree_append, Bool.and_eq_true, errorFree_given] at hvalid
    have hvalid := Json.Shape.given_iff.mp hvalid.2
    rw [slotWrapper, object, warned_append, warned_requiredText, List.nil_append]
    exact .optional hmodifier rfl fun v _ hv => reports_widgetModifier (hvalid v hv)
  | _ => cases hvalid

/-- A slot with its children, of which it is known that they are reported. -/
theorem reports_slotFields {fields : Entries Json} {children : List SlotChild} {s : Slot}
    (hvalid : errorFree (slotFields ds fields ++ slotChildrenField ds fields) = true)
    (h : Slot.ofFields? fields children = some s)
    (hchildren : Slot.childrenOfFields? fields = some children)
    (hchild : ∀ l, fields.lookup "children" = some (.arr l) → ∀ v ∈ l,
      errorFree (slotChild ds v) = true → ∀ c, Slot.childOfJson? v = some c →
      ds.Reports (warned (slotChild ds v)) c.references) :
    ds.Reports (warned (slotFields ds fields ++ slotChildrenField ds fields)) s.references := by
  rw [errorFree_append, Bool.and_eq_true, slotChildrenField_eq] at hvalid
  have hbelow := errorFree_of_mem_array hvalid.2
  rw [slotFields, errorFree_append, Bool.and_eq_true, errorFree_given] at hvalid
  have hown := Json.Shape.given_iff.mp hvalid.1.2
  simp only [Slot.ofFields?, Option.bind_eq_bind, Option.bind_eq_some_iff,
    Option.some.injEq] at h
  obtain ⟨tag, -, classes, -, source, hsource, conditional, -, condition, -, region, -, modifier, -,
    wrapper, hwrapper, attrs, -, rfl⟩ := h
  rw [Slot.childrenOfFields?_eq] at hchildren
  have hfields : warned (slotFields ds fields) =
      warned (given fields "source" (slotSource ds)) ++
        warned (given fields "wrapper" (slotWrapper ds)) := by
    simp [slotFields, warned_regionModifier]
  have hsource : ds.Reports (warned (given fields "source" (slotSource ds)))
      (.inside (.field "source")
        ((source.bind Source.ofText?).toList.flatMap Source.references)) := by
    have hreports : ds.Reports (warned (given fields "source" (slotSource ds)))
        (.inside (.field "source") (source.toList.flatMap fun text =>
          (Source.ofText? text).toList.flatMap Source.references)) :=
      .optional hsource rfl fun _ _ _ => reports_slotSource
    cases source with
    | none => exact hreports
    | some text => simpa using hreports
  rw [warned_append, hfields, slotChildrenField_eq, Slot.references_eq]
  refine (hsource.append ?_).append ?_
  · exact .optional hwrapper rfl fun v _ hv => reports_slotWrapper (hown v hv)
  · exact .list hchildren fun l hl v hv => hchild l hl v hv (hbelow l hl v hv)

theorem reports_slotChild : ∀ v, errorFree (slotChild ds v) = true → ∀ c,
    Slot.childOfJson? v = some c → ds.Reports (warned (slotChild ds v)) c.references := by
  refine Json.childInduct ?_ ?_
  · intro fields ih hvalid c h
    rw [Slot.childOfJson?] at h
    rw [slotChild] at hvalid ⊢
    split_ifs at h hvalid ⊢ with hslot
    · obtain ⟨children, hchildren, h⟩ := Option.bind_eq_some_iff.mp h
      obtain ⟨s, hs, rfl⟩ := Option.map_eq_some_iff.mp h
      rw [SlotChild.references]
      exact reports_slotFields hvalid hs hchildren ih
    · obtain ⟨entry, -, rfl⟩ := Option.map_eq_some_iff.mp h
      rw [warned_chromeEntry]
      exact .nil
  · intro v hv _ c h
    cases v with
    | str s =>
      rw [Slot.childOfJson?] at h
      rw [slotChild]
      cases hname : Text.behind? "chrome:" s with
      | some name =>
        rw [hname] at h
        cases h
        exact reports_chromeReference name
      | none =>
        rw [hname] at h
        cases h
        exact .nil
    | obj fields => cases hv
    | _ => cases h

theorem reports_slot {v : Json} {s : Slot} (hvalid : errorFree (slot ds v) = true)
    (h : Slot.ofJson? v = some s) : ds.Reports (warned (slot ds v)) s.references := by
  cases v with
  | obj fields =>
    obtain ⟨children, hchildren, hs⟩ := Option.bind_eq_some_iff.mp h
    exact reports_slotFields hvalid hs hchildren fun _ _ v _ => reports_slotChild v
  | _ => cases hvalid

end

end Check

namespace Layout

/-- The warnings about a layout without errors are about its references that dangle. -/
theorem reports {v : Json} {l : Layout} (hv : v.WellFormed)
    (hvalid : Check.errorFree (Check.layout v) = true) (h : Layout.ofJson? v = some l) :
    Reports l.dangles (fun r d => d = r.problem) (Check.warned (Check.layout v)) l.references := by
  cases v with
  | obj fields =>
    simp only [Layout.ofJson?, Json.decodeRecord_obj, Option.bind_eq_bind,
      Option.bind_eq_some_iff, Option.some.injEq] at h
    obtain ⟨block, -, tag, -, behaviors, -, slots, hslots, chrome, hchrome, widgets, hwidgets,
      rfl⟩ := h
    let ds : Check.Declarations :=
      ⟨Check.declared fields "chrome", Check.declared fields "computed"⟩
    have hdangles : Layout.dangles
        { block, tag, behaviors, slots, chrome, widgets } = ds.dangles := by
      funext r
      cases r with
      | widget name =>
        rw [Layout.dangles, ← Dict.contains_keys, ← Json.declared_eq_keys hv hwidgets]
        rfl
      | chrome name =>
        rw [Layout.dangles, ← Dict.contains_keys, ← Json.declared_eq_keys hv hchrome]
        rfl
      | source text => rfl
    have hwarned : Check.warned (Check.layout (.obj fields)) =
        Check.warned (Check.given fields "slots"
          (Check.object .object (Check.eachField (Check.slot ds)))) := by
      rw [Check.layout, Check.object]
      simp [Check.warned_values Check.warned_chromeEntry,
        Check.warned_values Check.warned_widget, ds]
    rw [Check.layout, Check.object, Check.errorFree_append, Bool.and_eq_true] at hvalid
    have hslot := Check.errorFree_of_mem_object hvalid.2
    rw [hdangles, hwarned]
    exact .dict hslots hv fun l hl p hp _ => Check.reports_slot (hslot l hl p hp)
  | _ => cases hvalid

end Layout

end Livery
