import Livery.Layout.Composition
import Livery.Proofs.LayoutReferences

/-!
# Composing with a record

References to what a layout does not declare give nothing, and composing a page goes on without
them. `Layout.composeTraced` composes the same page (`Layout.composeTraced_fst`) and records every
reference that it could not follow. These are references of the layout that dangle
(`Layout.missed_composeTraced`), and all of them if no slot can be left out
(`Layout.recorded_composeTraced`). So a layout without warnings is composed without a record
(`Layout.warnings_eq_dangling`).
-/

namespace Livery

/-- A result with the references that could not be followed on the way to it. -/
abbrev Traced (α : Type) := α × List SlotReference

namespace Layout

/-- The fragment of a name. -/
def chromeTraced (l : Layout) (page : Page) (name : String) : Traced (List Node) :=
  match l.chrome.get? name with
  | some c => (((c.build page (c.label.getD name)).map .element).toList, [])
  | none => ([], [.chrome name])

/-- The content that a source gives. -/
def sourceTraced (l : Layout) (page : Page) (widgets : Dict (Option Element)) :
    Source → Traced (List Node)
  | .computed name =>
    match widgets.get? name with
    | some w => ((w.map .element).toList, [])
    | none => ([], [.widget name])
  | .chrome name => l.chromeTraced page name
  | .unknown text => ([], [.source text])
  | s => (l.sourceNodes page widgets s, [])

end Layout

/-- The reference of a wrapper, if it cannot be followed. -/
def SlotWrapper.missed (widgets : Dict (Option Element)) (w : SlotWrapper) : List SlotReference :=
  (w.modifier.filter fun m => !widgets.contains m.widget).toList.map fun m => .widget m.widget

namespace Slot

mutual

/-- The element of a slot, unless the slot is left out. -/
def buildTraced (l : Layout) (page : Page) (widgets : Dict (Option Element)) :
    Slot → Traced (Option Element)
  | s@⟨tag, _, source, conditional, _, _, _, wrapper, attrs, children⟩ =>
    let own := source.elim ([], []) (l.sourceTraced page widgets)
    if !s.admits page then (none, [])
    else if source.isSome ∧ conditional ∧ own.1.isEmpty then (none, own.2)
    else
      let below := buildAllTraced l page widgets children
      (some
        { name := tag
          attrs := (classAttrs (s.builtClasses page)).extend attrs.entries
          children := wrapped widgets (own.1 ++ below.1) wrapper },
        own.2 ++ below.2 ++ wrapper.toList.flatMap (SlotWrapper.missed widgets))

/-- The nodes of the children of a slot. -/
def buildAllTraced (l : Layout) (page : Page) (widgets : Dict (Option Element)) :
    List SlotChild → Traced (List Node)
  | [] => ([], [])
  | .chrome name :: rest =>
    let own := l.chromeTraced page name
    let below := buildAllTraced l page widgets rest
    (own.1 ++ below.1, own.2 ++ below.2)
  | .text s :: rest =>
    let below := buildAllTraced l page widgets rest
    (.text s :: below.1, below.2)
  | .slot s :: rest =>
    let own := buildTraced l page widgets s
    let below := buildAllTraced l page widgets rest
    ((own.1.map .element).toList ++ below.1, own.2 ++ below.2)
  | .entry c :: rest =>
    let below := buildAllTraced l page widgets rest
    (((c.build page (c.label.getD "")).map .element).toList ++ below.1, below.2)

end

end Slot

/-- The composed page. -/
def Layout.composeTraced (l : Layout) (page : Page) (pre : String) : Traced Element :=
  let widgets := l.resolved page pre
  let slots := l.slots.values.map fun s => s.buildTraced l page widgets
  let root : Element :=
    { name := l.tag.getD "div"
      attrs := l.rootAttrs pre
      children := slots.filterMap fun s => s.1.map .element }
  (match l.hook with
    | some hook => hook root page
    | none => root,
    slots.flatMap Prod.snd)

/-! ## The record changes nothing -/

namespace Layout

theorem chromeTraced_fst (l : Layout) (page : Page) (name : String) :
    (l.chromeTraced page name).1 = l.chromeNodes page name := by
  rw [chromeTraced, chromeNodes]
  cases l.chrome.get? name <;> rfl

theorem sourceTraced_fst (l : Layout) (page : Page) (widgets : Dict (Option Element))
    (s : Source) : (l.sourceTraced page widgets s).1 = l.sourceNodes page widgets s := by
  cases s with
  | computed name =>
    rw [sourceTraced, sourceNodes]
    cases widgets.get? name <;> rfl
  | chrome name => exact l.chromeTraced_fst page name
  | _ => rfl

end Layout

namespace Slot

variable (l : Layout) (page : Page) (widgets : Dict (Option Element))

mutual

theorem buildTraced_fst : ∀ s : Slot, (s.buildTraced l page widgets).1 = s.build l page widgets
  | ⟨tag, classes, source, conditional, condition, region, modifier, wrapper, attrs, children⟩ => by
    unfold buildTraced build
    simp only [← buildAllTraced_fst children]
    cases source with
    | none => split_ifs <;> simp_all
    | some source =>
      simp only [← l.sourceTraced_fst]
      split_ifs <;> simp_all

theorem buildAllTraced_fst : ∀ cs : List SlotChild,
    (buildAllTraced l page widgets cs).1 = buildAll l page widgets cs
  | [] => rfl
  | .chrome name :: rest => by
    rw [buildAllTraced, buildAll, ← buildAllTraced_fst rest, ← l.chromeTraced_fst]
  | .text s :: rest => by rw [buildAllTraced, buildAll, ← buildAllTraced_fst rest]
  | .slot s :: rest => by
    rw [buildAllTraced, buildAll, ← buildAllTraced_fst rest, ← buildTraced_fst s]
  | .entry c :: rest => by rw [buildAllTraced, buildAll, ← buildAllTraced_fst rest]

end

end Slot

theorem Layout.composeTraced_fst (l : Layout) (page : Page) (pre : String) :
    (l.composeTraced page pre).1 = l.compose page pre := by
  rw [composeTraced, compose]
  cases l.hook <;> simp only [List.filterMap_map, Function.comp_def, Slot.buildTraced_fst]

/-! ## The record is of dangling references -/

namespace Layout

/-- What could not be followed is among some references, and dangles. -/
def Missed (l : Layout) (missed : List SlotReference) (m : Mentions SlotReference) : Prop :=
  ∀ r ∈ missed, r ∈ m.map Prod.snd ∧ l.dangles r = true

variable {l : Layout} {missed missed' : List SlotReference} {m m' : Mentions SlotReference}

theorem Missed.nil : l.Missed [] m := fun _ hr => by cases hr

theorem Missed.single {r : SlotReference} (h : l.dangles r = true) : l.Missed [r] [([], r)] := by
  intro r' hr'
  rw [List.mem_singleton.mp hr']
  exact ⟨List.mem_singleton_self r, h⟩

theorem Missed.append (h : l.Missed missed m) (h' : l.Missed missed' m') :
    l.Missed (missed ++ missed') (m ++ m') := by
  intro r hr
  rw [List.map_append]
  rcases List.mem_append.mp hr with hr | hr
  · exact ⟨List.mem_append_left _ (h r hr).1, (h r hr).2⟩
  · exact ⟨List.mem_append_right _ (h' r hr).1, (h' r hr).2⟩

theorem Missed.inside (s : Step) (h : l.Missed missed m) : l.Missed missed (m.inside s) := by
  intro r hr
  rw [Mentions.inside, List.map_map]
  exact h r hr

theorem Missed.of_subset (h : l.Missed missed m) (hsub : missed' ⊆ missed) : l.Missed missed' m :=
  fun r hr => h r (hsub hr)

/-- What is missed in the parts of a list is among the references of the parts. -/
theorem Missed.flatMap {α : Type} {f : α → List SlotReference} {g : α → Mentions SlotReference} :
    ∀ {parts : List α}, (∀ a ∈ parts, l.Missed (f a) (g a)) →
      l.Missed (parts.flatMap f) (parts.flatMap g)
  | [], _ => Missed.nil
  | a :: _, h => by
    rw [List.flatMap_cons, List.flatMap_cons]
    exact (h a List.mem_cons_self).append (flatMap fun b hb => h b (List.mem_cons_of_mem _ hb))

theorem missed_chromeTraced (l : Layout) (page : Page) (name : String) :
    l.Missed (l.chromeTraced page name).2 [([], .chrome name)] := by
  rw [chromeTraced]
  cases h : l.chrome.get? name with
  | some c => exact .nil
  | none => exact .single (by rw [dangles, Dict.contains, h]; rfl)

/-- The widgets of a page are those of its layout. -/
def Resolves (l : Layout) (widgets : Dict (Option Element)) : Prop :=
  ∀ name, widgets.contains name = l.widgets.contains name

theorem resolves_resolved (l : Layout) (page : Page) (pre : String) :
    l.Resolves (l.resolved page pre) := by
  intro name
  rw [← Dict.contains_keys, ← Dict.contains_keys]
  exact congrArg (fun names => names.contains name)
    (Entries.keys_mapValues (fun _ w => w.resolve page pre) l.widgets.entries)

variable {widgets : Dict (Option Element)}

theorem missed_sourceTraced (hwidgets : l.Resolves widgets) (page : Page) (s : Source) :
    l.Missed (l.sourceTraced page widgets s).2 s.references := by
  cases s with
  | computed name =>
    rw [sourceTraced]
    cases h : widgets.get? name with
    | some w => exact .nil
    | none => exact .single (by rw [dangles, ← hwidgets, Dict.contains, h]; rfl)
  | chrome name => exact l.missed_chromeTraced page name
  | unknown text => exact .single rfl
  | _ => exact .nil

theorem missed_wrapper (hwidgets : l.Resolves widgets) (w : SlotWrapper) :
    l.Missed (w.missed widgets) w.references := by
  rw [SlotWrapper.missed, SlotWrapper.references]
  refine .inside _ ?_
  cases w.modifier with
  | none => exact .nil
  | some m =>
    rw [Option.toList_some, List.flatMap_singleton, Option.filter_some, hwidgets]
    cases h : l.widgets.contains m.widget with
    | true => exact .nil
    | false => exact .inside _ (.single (by rw [dangles, h]; rfl))

mutual

theorem missed_buildTraced (hwidgets : l.Resolves widgets) (page : Page) : ∀ s : Slot,
    l.Missed (s.buildTraced l page widgets).2 s.references
  | ⟨tag, classes, source, conditional, condition, region, modifier, wrapper, attrs, children⟩ => by
    have hsource : l.Missed
        (source.elim ([], []) (l.sourceTraced page widgets)).2
        (.inside (.field "source") (source.toList.flatMap Source.references)) := by
      refine .inside _ ?_
      cases source with
      | none => exact .nil
      | some source => simpa using missed_sourceTraced hwidgets page source
    have hwrapper : l.Missed (wrapper.toList.flatMap (SlotWrapper.missed widgets))
        (.inside (.field "wrapper") (wrapper.toList.flatMap SlotWrapper.references)) :=
      .inside _ (.flatMap fun w _ => missed_wrapper hwidgets w)
    have hchildren := (missed_buildAllTraced hwidgets page children 0).inside (.field "children")
    rw [Slot.references]
    refine ((hsource.append hwrapper).append hchildren).of_subset ?_
    unfold Slot.buildTraced
    -- A slot that is left out has no more on its record than one that is built.
    dsimp only
    split_ifs
    · exact List.nil_subset _
    · exact fun r hr => List.mem_append_left _ (List.mem_append_left _ hr)
    · intro r hr
      simp only [List.mem_append] at hr ⊢
      tauto

theorem missed_buildAllTraced (hwidgets : l.Resolves widgets) (page : Page) :
    ∀ (cs : List SlotChild) (i : ℕ),
      l.Missed (Slot.buildAllTraced l page widgets cs).2 (childReferences i cs)
  | [], _ => .nil
  | .chrome name :: rest, i => by
    rw [childReferences, SlotChild.references, Slot.buildAllTraced]
    exact ((l.missed_chromeTraced page name).inside _).append
      (missed_buildAllTraced hwidgets page rest _)
  | .text s :: rest, i => by
    rw [childReferences, SlotChild.references, Slot.buildAllTraced]
    exact missed_buildAllTraced hwidgets page rest _
  | .slot s :: rest, i => by
    rw [childReferences, SlotChild.references, Slot.buildAllTraced]
    exact ((missed_buildTraced hwidgets page s).inside _).append
      (missed_buildAllTraced hwidgets page rest _)
  | .entry c :: rest, i => by
    rw [childReferences, SlotChild.references, Slot.buildAllTraced]
    exact missed_buildAllTraced hwidgets page rest _

end

/-- What could not be followed while a page was composed are references that dangle. -/
theorem missed_composeTraced (l : Layout) (page : Page) (pre : String) :
    l.Missed (l.composeTraced page pre).2 l.references := by
  rw [composeTraced, references, Dict.values, List.map_map, List.flatMap_map]
  have hwidgets := l.resolves_resolved page pre
  exact .inside _ (.flatMap fun p _ => .inside _ (missed_buildTraced hwidgets page p.2))

end Layout

/-! ## Every dangling reference that is met is on the record -/

mutual

/-- Whether a slot is built on every page, and each slot among its children too. -/
def Slot.isUnconditional : Slot → Bool
  | ⟨_, _, _, conditional, condition, region, _, _, _, children⟩ =>
    !conditional && condition.isNone && region.isNone && unconditionalChildren children

/-- Whether the slots among some children are built on every page. -/
def unconditionalChildren : List SlotChild → Bool
  | [] => true
  | .slot s :: rest => s.isUnconditional && unconditionalChildren rest
  | _ :: rest => unconditionalChildren rest

end

namespace Layout

/-- Of some references, those that dangle are on a record. -/
def Recorded (l : Layout) (record : List SlotReference) (m : Mentions SlotReference) : Prop :=
  ∀ p ∈ m, l.dangles p.2 = true → p.2 ∈ record

variable {l : Layout} {record record' : List SlotReference} {m m' : Mentions SlotReference}

theorem Recorded.nil : l.Recorded record [] := fun _ hp => by cases hp

theorem Recorded.single {r : SlotReference} (h : l.dangles r = true → r ∈ record) :
    l.Recorded record [([], r)] := by
  intro p hp
  rw [List.mem_singleton.mp hp]
  exact h

theorem Recorded.append (h : l.Recorded record m) (h' : l.Recorded record' m') :
    l.Recorded (record ++ record') (m ++ m') := by
  intro p hp hdangles
  rcases List.mem_append.mp hp with hp | hp
  · exact List.mem_append_left _ (h p hp hdangles)
  · exact List.mem_append_right _ (h' p hp hdangles)

theorem Recorded.inside (s : Step) (h : l.Recorded record m) : l.Recorded record (m.inside s) := by
  intro p hp
  obtain ⟨q, hq, rfl⟩ := List.mem_map.mp hp
  exact h q hq

theorem Recorded.of_subset (h : l.Recorded record m) (hsub : record ⊆ record') :
    l.Recorded record' m := fun p hp hdangles => hsub (h p hp hdangles)

theorem Recorded.flatMap {α : Type} {f : α → List SlotReference} {g : α → Mentions SlotReference} :
    ∀ {parts : List α}, (∀ a ∈ parts, l.Recorded (f a) (g a)) →
      l.Recorded (parts.flatMap f) (parts.flatMap g)
  | [], _ => Recorded.nil
  | a :: _, h => by
    rw [List.flatMap_cons, List.flatMap_cons]
    exact (h a List.mem_cons_self).append (flatMap fun b hb => h b (List.mem_cons_of_mem _ hb))

theorem recorded_chromeTraced (l : Layout) (page : Page) (name : String) :
    l.Recorded (l.chromeTraced page name).2 [([], .chrome name)] := by
  refine .single fun hdangles => ?_
  rw [dangles, Dict.contains] at hdangles
  rw [chromeTraced]
  cases h : l.chrome.get? name with
  | some c =>
    rw [h] at hdangles
    cases hdangles
  | none => exact List.mem_singleton_self _

variable {widgets : Dict (Option Element)}

theorem recorded_sourceTraced (hwidgets : l.Resolves widgets) (page : Page) (s : Source) :
    l.Recorded (l.sourceTraced page widgets s).2 s.references := by
  cases s with
  | computed name =>
    refine .single fun hdangles => ?_
    rw [dangles, ← hwidgets, Dict.contains] at hdangles
    rw [sourceTraced]
    cases h : widgets.get? name with
    | some w =>
      rw [h] at hdangles
      cases hdangles
    | none => exact List.mem_singleton_self _
  | chrome name => exact l.recorded_chromeTraced page name
  | unknown text => exact .single fun _ => List.mem_singleton_self _
  | _ => exact .nil

theorem recorded_wrapper (hwidgets : l.Resolves widgets) (w : SlotWrapper) :
    l.Recorded (w.missed widgets) w.references := by
  rw [SlotWrapper.missed, SlotWrapper.references]
  refine .inside _ ?_
  cases w.modifier with
  | none => exact .nil
  | some m =>
    rw [Option.toList_some, List.flatMap_singleton, Option.filter_some, hwidgets]
    refine .inside _ (.single fun hdangles => ?_)
    rw [dangles] at hdangles
    rw [hdangles]
    exact List.mem_singleton_self _

mutual

theorem recorded_buildTraced (hwidgets : l.Resolves widgets) (page : Page) : ∀ s : Slot,
    s.isUnconditional = true → l.Recorded (s.buildTraced l page widgets).2 s.references
  | ⟨tag, classes, source, conditional, condition, region, modifier, wrapper, attrs, children⟩,
    h => by
    simp only [Slot.isUnconditional, Bool.and_eq_true, Bool.not_eq_true',
      Option.isNone_iff_eq_none] at h
    obtain ⟨⟨⟨rfl, rfl⟩, rfl⟩, hbelow⟩ := h
    have hsource : l.Recorded (source.elim ([], []) (l.sourceTraced page widgets)).2
        (.inside (.field "source") (source.toList.flatMap Source.references)) := by
      refine .inside _ ?_
      cases source with
      | none => exact .nil
      | some source => simpa using recorded_sourceTraced hwidgets page source
    have hwrapper : l.Recorded (wrapper.toList.flatMap (SlotWrapper.missed widgets))
        (.inside (.field "wrapper") (wrapper.toList.flatMap SlotWrapper.references)) :=
      .inside _ (.flatMap fun w _ => recorded_wrapper hwidgets w)
    have hchildren :=
      (recorded_buildAllTraced hwidgets page children 0 hbelow).inside (.field "children")
    rw [Slot.references]
    refine ((hsource.append hwrapper).append hchildren).of_subset ?_
    simp only [Slot.buildTraced, Slot.admits, Option.all_none, Bool.and_self, Bool.not_true,
      Bool.false_eq_true, if_false, false_and, and_false]
    intro r hr
    simp only [List.mem_append] at hr ⊢
    tauto

theorem recorded_buildAllTraced (hwidgets : l.Resolves widgets) (page : Page) :
    ∀ (cs : List SlotChild) (i : ℕ), unconditionalChildren cs = true →
      l.Recorded (Slot.buildAllTraced l page widgets cs).2 (childReferences i cs)
  | [], _, _ => .nil
  | .chrome name :: rest, i, h => by
    rw [childReferences, SlotChild.references, Slot.buildAllTraced]
    exact ((l.recorded_chromeTraced page name).inside _).append
      (recorded_buildAllTraced hwidgets page rest _ h)
  | .text s :: rest, i, h => by
    rw [childReferences, SlotChild.references, Slot.buildAllTraced]
    exact recorded_buildAllTraced hwidgets page rest _ h
  | .slot s :: rest, i, h => by
    rw [unconditionalChildren, Bool.and_eq_true] at h
    rw [childReferences, SlotChild.references, Slot.buildAllTraced]
    exact ((recorded_buildTraced hwidgets page s h.1).inside _).append
      (recorded_buildAllTraced hwidgets page rest _ h.2)
  | .entry c :: rest, i, h => by
    rw [childReferences, SlotChild.references, Slot.buildAllTraced]
    exact recorded_buildAllTraced hwidgets page rest _ h

end

/-- Where no slot can be left out, all references that dangle are met and recorded. -/
theorem recorded_composeTraced {l : Layout} (h : ∀ s ∈ l.slots.values, s.isUnconditional = true)
    (page : Page) (pre : String) : l.Recorded (l.composeTraced page pre).2 l.references := by
  rw [composeTraced, references, Dict.values, List.map_map, List.flatMap_map]
  have hwidgets := l.resolves_resolved page pre
  exact .inside _ (.flatMap fun p hp => .inside _
    (recorded_buildTraced hwidgets page p.2 (h p.2 (List.mem_map_of_mem hp))))

/-! ## The warnings of a layout -/

/--
The warnings about a layout without errors are its references that dangle, one for each, in the
order of the layout and at their places. What is recorded while a page is composed are such
references, and all of them if no slot can be left out. So a layout without warnings is composed, on
every page, without a reference that cannot be followed.
-/
theorem warnings_eq_dangling {v : Json} {l : Layout} (hv : v.WellFormed)
    (hvalid : (Report.mk (Check.layout v)).valid = true) (h : Layout.ofJson? v = some l) :
    (Report.mk (Check.layout v)).warnings =
      l.dangling.map (fun p => (Finding.mk p.1 (.dangling p.2.problem)).diagnostic) ∧
    (∀ (page : Page) (pre : String),
      (∀ r ∈ (l.composeTraced page pre).2, r ∈ l.dangling.map Prod.snd) ∧
      ((∀ s ∈ l.slots.values, s.isUnconditional = true) →
        ∀ r ∈ l.dangling.map Prod.snd, r ∈ (l.composeTraced page pre).2)) ∧
    ((Report.mk (Check.layout v)).warnings = [] →
      ∀ (page : Page) (pre : String), l.composeTraced page pre = (l.compose page pre, [])) := by
  have hwarnings : (Report.mk (Check.layout v)).warnings =
      l.dangling.map (fun p => (Finding.mk p.1 (.dangling p.2.problem)).diagnostic) := by
    rw [Check.warnings_eq, (reports hv (by rwa [← Check.valid_eq]) h).eq_map, List.map_map]
    rfl
  have hrecord : ∀ page pre, ∀ r ∈ (l.composeTraced page pre).2,
      r ∈ l.dangling.map Prod.snd := by
    intro page pre r hr
    obtain ⟨hmem, hdangles⟩ := l.missed_composeTraced page pre r hr
    obtain ⟨p, hp, rfl⟩ := List.mem_map.mp hmem
    exact List.mem_map_of_mem (List.mem_filter.mpr ⟨hp, hdangles⟩)
  refine ⟨hwarnings, fun page pre => ⟨hrecord page pre, fun hslots r hr => ?_⟩,
    fun hnone page pre => ?_⟩
  · obtain ⟨p, hp, rfl⟩ := List.mem_map.mp hr
    obtain ⟨hmem, hdangles⟩ := List.mem_filter.mp hp
    exact recorded_composeTraced hslots page pre p hmem hdangles
  · rw [hwarnings, List.map_eq_nil_iff] at hnone
    refine Prod.ext (l.composeTraced_fst page pre) (List.eq_nil_iff_forall_not_mem.mpr ?_)
    intro r hr
    have hmem := hrecord page pre r hr
    rw [hnone] at hmem
    cases hmem

end Layout

/-- A layout with a title, which is declared or not. -/
def titleConfig (chrome : Entries Json) : Json :=
  .obj [("block", .str "page"), ("chrome", .obj chrome), ("slots", .obj [("main", .obj
    [("tag", .str "main"), ("children", .arr [.str "chrome:title"])])])]

/-- The layout whose title is not declared. -/
def untitledLayout : Layout where
  block := "page"
  slots := .ofList [("main", { tag := "main", children := [.chrome "title"] })]

/-- A title that is declared leads to no warning, and one that is not leads to one at its place and
is on the record of every page. -/
theorem warnings_eq_dangling_title :
    (∃ l, Layout.ofJson? (titleConfig [("title", .obj [("tag", .str "h1")])]) = some l ∧
      ∀ (page : Page) (pre : String), (l.composeTraced page pre).2 = []) ∧
    Layout.ofJson? (titleConfig []) = some untitledLayout ∧
    untitledLayout.dangling.map (fun p => (Finding.mk p.1 (.dangling p.2.problem)).diagnostic) =
      [⟨.warning, "slots.main.children[0]",
        "References chrome \"title\" which is not defined in chrome", []⟩] ∧
    ∀ (page : Page) (pre : String),
      .chrome "title" ∈ (untitledLayout.composeTraced page pre).2 := by
  have hwell : ∀ chrome, (Json.obj chrome).WellFormed → (titleConfig chrome).WellFormed := by
    intro chrome hc
    simpa [titleConfig, Json.WellFormed, Json.WellFormedFields, Json.WellFormedItems,
      Entries.keys] using hc
  constructor
  · obtain ⟨l, hl⟩ := Option.isSome_iff_exists.mp
      (show (Layout.ofJson? (titleConfig [("title", .obj [("tag", .str "h1")])])).isSome by rfl)
    refine ⟨l, hl, fun page pre => ?_⟩
    have hv := hwell [("title", .obj [("tag", .str "h1")])]
      (by simp [Json.WellFormed, Json.WellFormedFields, Entries.keys])
    rw [(Layout.warnings_eq_dangling hv (by rfl) hl).2.2 (by rfl)]
  · have hl : Layout.ofJson? (titleConfig []) = some untitledLayout := by rfl
    have hv := hwell [] (by simp [Json.WellFormed, Json.WellFormedFields, Entries.keys])
    have hcheck : Check.layout (titleConfig []) =
        [⟨[.field "slots", .field "main", .field "children", .index 0],
          .dangling (.chrome "title")⟩] := rfl
    obtain ⟨hwarnings, hrecord, -⟩ := Layout.warnings_eq_dangling hv (by rfl) hl
    refine ⟨hl, ?_, fun page pre => (hrecord page pre).2 (by decide) _ (by decide)⟩
    rw [← hwarnings, hcheck]
    rfl

end Livery
