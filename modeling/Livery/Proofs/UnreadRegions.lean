import Mathlib
import Livery.Layout.Composition
import Livery.Proofs.Fragments

/-!
# Regions that a layout does not read

A layout reads the regions that its slots and widgets name (`Layout.regionNames`) and, through the
paths of its fragments (`Layout.paths`), the regions as a whole. If a layout names a region nowhere
and no path starts at the regions, then pages that differ in this region only
(`Page.AgreesExcept`) are composed alike (`Layout.compose_eq_of_unread`).

The lemmas go from the page to the layout : what a path finds, what a fragment shows, what a widget
shows, what a slot holds.
-/

namespace Livery

/-- Two pages agree on everything, except for whether they have a region and what it holds. -/
structure Page.AgreesExcept (name : String) (p q : Page) : Prop where
  renderable : p.renderable = q.renderable
  regions : ∀ other, other ≠ name → p.regions.get? other = q.regions.get? other
  title : p.title = q.title
  url : p.url = q.url
  pages : p.pages = q.pages
  frontmatter : p.frontmatter = q.frontmatter
  headings : p.headings = q.headings

/-! ## What a layout reads -/

/-- The region that a source names. -/
def Source.regionName? : Source → Option String
  | .region name => some name
  | .cloneRegion name => some name
  | _ => none

mutual

/-- The regions that a slot names, at any depth. -/
def Slot.regionNames : Slot → List String
  | ⟨_, _, source, _, _, conditionalRegion, modifier, _, _, children⟩ =>
    (source.bind Source.regionName?).toList ++ conditionalRegion.toList ++
      (modifier.map RegionModifier.region).toList ++ Slot.regionNamesAll children

/-- The regions that the slots among some children name. -/
def Slot.regionNamesAll : List SlotChild → List String
  | [] => []
  | .slot s :: rest => Slot.regionNames s ++ Slot.regionNamesAll rest
  | _ :: rest => Slot.regionNamesAll rest

end

mutual

/-- The fragments that a slot holds, at any depth. -/
def Slot.fragments : Slot → List Chrome
  | ⟨_, _, _, _, _, _, _, _, _, children⟩ => Slot.fragmentsAll children

/-- The fragments among some children and in the slots among them. -/
def Slot.fragmentsAll : List SlotChild → List Chrome
  | [] => []
  | .slot s :: rest => Slot.fragments s ++ Slot.fragmentsAll rest
  | .entry c :: rest => c :: Slot.fragmentsAll rest
  | _ :: rest => Slot.fragmentsAll rest

end

/-- The region that a widget names, with or without `region:` in front. -/
def Widget.regionName (w : Widget) : String := (Text.behind? "region:" w.source).getD w.source

/-- The path of an attribute that is bound to the page. -/
def ChromeAttr.path? : ChromeAttr → Option String
  | .literal _ => none
  | .fromPage path => some path

namespace Chrome

/-- The paths that a fragment follows, its children apart. -/
def ownPaths (c : Chrome) : List String :=
  c.pageCondition.toList ++ c.pageText.toList ++ c.attrs.values.filterMap ChromeAttr.path? ++
    (c.iteration.map Iteration.source).toList

/-- The paths that a fragment follows, at any depth. -/
def paths (c : Chrome) : List String := c.entries.flatMap ownPaths

end Chrome

namespace Layout

/-- The regions that a layout names : in its slots and in its widgets. -/
def regionNames (l : Layout) : List String :=
  l.slots.values.flatMap Slot.regionNames ++ l.widgets.values.map Widget.regionName

/-- The paths that the fragments of a layout follow, the declared ones and those in slots. -/
def paths (l : Layout) : List String :=
  (l.chrome.values ++ l.slots.values.flatMap Slot.fragments).flatMap Chrome.paths

end Layout

/-- A path starts at the regions of a page. -/
def Page.StartsAtRegions (path : String) : Prop := (Text.split '.' path).head? = some "regions"

instance (path : String) : Decidable (Page.StartsAtRegions path) :=
  inferInstanceAs (Decidable (_ = _))

namespace Page

variable {r : String} {p q : Page}

/-! ## Paths -/

theorem AgreesExcept.root?_eq (h : p.AgreesExcept r q) {segment : String}
    (hsegment : segment ≠ "regions") : p.root? segment = q.root? segment := by
  unfold root?
  split
  · rw [h.title]
  · rw [h.url]
  · rw [frontmatterJson, frontmatterJson, h.frontmatter]
  · rw [pagesJson, pagesJson, h.pages]
  · rw [headingsJson, headingsJson, h.headings]
  · exact absurd rfl hsegment
  · rw [h.renderable]
  · rfl

theorem AgreesExcept.lookup?_eq (h : p.AgreesExcept r q) {path : String}
    (hpath : ¬ StartsAtRegions path) : p.lookup? path = q.lookup? path := by
  rw [StartsAtRegions] at hpath
  rw [lookup?, lookup?]
  generalize Text.split '.' path = segments at hpath
  unfold lookupSegments?
  split
  · rw [h.frontmatter]
  · rw [h.root?_eq fun heq => hpath (congrArg some heq)]
  · rfl

theorem AgreesExcept.lookupText_eq (h : p.AgreesExcept r q) {path : String}
    (hpath : ¬ StartsAtRegions path) : p.lookupText path = q.lookupText path := by
  rw [lookupText, lookupText, h.lookup?_eq hpath]

theorem AgreesExcept.flag_eq (h : p.AgreesExcept r q) (key : String) : p.flag key = q.flag key := by
  rw [flag, flag, h.frontmatter]

theorem AgreesExcept.contains_eq (h : p.AgreesExcept r q) {name : String} (hname : name ≠ r) :
    p.regions.contains name = q.regions.contains name := by
  rw [Dict.contains, Dict.contains, h.regions name hname]

end Page

variable {r : String} {p q : Page}

/-! ## Fragments -/

namespace Chrome

theorem mem_ownPaths_of_fromPage {c : Chrome} {key path : String}
    (h : (key, ChromeAttr.fromPage path) ∈ c.attrs.entries) : path ∈ c.ownPaths := by
  have hvalue : ChromeAttr.fromPage path ∈ c.attrs.values := List.mem_map_of_mem h
  have hmem : path ∈ c.attrs.values.filterMap ChromeAttr.path? :=
    List.mem_filterMap.mpr ⟨_, hvalue, rfl⟩
  simp only [ownPaths, List.mem_append]
  exact Or.inl (Or.inr hmem)

section

variable (h : p.AgreesExcept r q) {c : Chrome}
  (hpaths : ∀ path ∈ c.ownPaths, ¬ Page.StartsAtRegions path)

include h hpaths

theorem admits_eq : c.admits p = c.admits q := by
  rw [admits, admits]
  cases hpath : c.pageCondition with
  | none => rfl
  | some path =>
    have hlookup := h.lookup?_eq (hpaths path (by simp [ownPaths, hpath]))
    rw [Option.all_some, Option.all_some, Page.has, Page.has, hlookup]

theorem builtAttrs_eq (name : String) : c.builtAttrs name p = c.builtAttrs name q := by
  rw [builtAttrs, builtAttrs, Dict.mapValues, Dict.mapValues]
  refine congrArg _ (List.map_congr_left fun a ha => ?_)
  obtain ⟨key, value⟩ := a
  cases value with
  | literal s => rfl
  | fromPage path =>
    rw [attrValue, attrValue, h.lookupText_eq (hpaths path (mem_ownPaths_of_fromPage ha))]

theorem markedAttrs_eq (name : String) : c.markedAttrs name p = c.markedAttrs name q := by
  rw [markedAttrs, markedAttrs, builtAttrs_eq h hpaths name]

theorem contentNodes_eq (hchildren : ∀ x, .entry x ∈ c.children → ∀ name,
    x.build p name = x.build q name) : c.contentNodes p = c.contentNodes q := by
  rw [contentNodes, contentNodes]
  cases hc : c.content with
  | markup text => rfl
  | pageText path =>
    have hpath : path ∈ c.ownPaths := by
      have hpage : c.pageText = some path := by
        unfold content at hc
        split at hc <;> cases hc
        rename_i hpage
        exact (Option.filter_eq_some_iff.mp hpage).1
      simp [ownPaths, hpage]
    simp only [h.lookupText_eq (hpaths path hpath)]
  | iteration i =>
    have hpath : i.source ∈ c.ownPaths := by
      have hiteration : c.iteration = some i := by
        unfold content at hc
        split at hc <;> cases hc
        assumption
      simp [ownPaths, hiteration]
    simp only [iterated, h.lookup?_eq (hpaths i.source hpath)]
  | children =>
    refine List.flatMap_congr fun x hx => ?_
    cases x with
    | text s => rfl
    | entry x => rw [childNodes, childNodes, hchildren x hx]

end

/-- A fragment is built alike if none of its paths starts at the regions. -/
theorem build_eq_of_unread (h : p.AgreesExcept r q) (c : Chrome) :
    (∀ path ∈ c.paths, ¬ Page.StartsAtRegions path) → ∀ name, c.build p name = c.build q name := by
  induction c using induct with
  | h c ih =>
    intro hpaths name
    have hown : ∀ path ∈ c.ownPaths, ¬ Page.StartsAtRegions path := fun path hpath =>
      hpaths path (List.mem_flatMap.mpr ⟨c, c.mem_entries_self, hpath⟩)
    have hchildren : ∀ x, .entry x ∈ c.children → ∀ name, x.build p name = x.build q name := by
      refine fun x hx => ih x hx fun path hpath => hpaths path ?_
      obtain ⟨d, hd, hpath⟩ := List.mem_flatMap.mp hpath
      exact List.mem_flatMap.mpr ⟨d, entries_subset hx hd, hpath⟩
    rw [build_eq, build_eq, admits_eq h hown, markedAttrs_eq h hown name,
      contentNodes_eq h hown hchildren]

end Chrome

/-! ## Widgets -/

theorem Widget.resolve_eq_of_unread (h : p.AgreesExcept r q) {w : Widget} (hw : w.regionName ≠ r)
    (pre : String) : w.resolve p pre = w.resolve q pre := by
  have hhidden : w.isHidden p = w.isHidden q := by
    rw [isHidden, isHidden, h.frontmatter]
  have hregion : w.region? p = w.region? q := h.regions _ hw
  have hheadings : ∀ min max, headingsBetween p min max = headingsBetween q min max := by
    intro min max
    rw [headingsBetween, headingsBetween, h.headings]
  have htoc : ∀ min max, toc p pre min max = toc q pre min max := by
    intro min max
    rw [toc, toc, hheadings]
  have htext : ∀ key, frontmatterText? p key = frontmatterText? q key := by
    intro key
    rw [frontmatterText?, frontmatterText?, h.frontmatter]
  have hversions : ∀ group, versions p group = versions q group := by
    intro group
    rw [versions, versions, h.pages]
  have hswitcher : versionSwitcher p pre = versionSwitcher q pre := by
    simp only [versionSwitcher, htext, hversions, h.url]
  rw [resolve, resolve, hhidden, hregion, h.url, h.title, h.pages, hheadings, htoc, hswitcher]

/-! ## Slots -/

namespace Layout

variable {l : Layout} (h : p.AgreesExcept r q)
  (hchrome : ∀ c ∈ l.chrome.values, ∀ path ∈ c.paths, ¬ Page.StartsAtRegions path)

include h hchrome

theorem chromeNodes_eq (name : String) : l.chromeNodes p name = l.chromeNodes q name := by
  rw [chromeNodes, chromeNodes]
  cases hc : l.chrome.get? name with
  | none => rfl
  | some c =>
    rw [Option.bind_some, Option.bind_some,
      c.build_eq_of_unread h (hchrome c (Dict.mem_values_of_get? hc))]

theorem sourceNodes_eq (widgets : Dict (Option Element)) {source : Source}
    (hsource : source.regionName? ≠ some r) :
    l.sourceNodes p widgets source = l.sourceNodes q widgets source := by
  have hregion : ∀ name, source.regionName? = some name →
      p.regions.get? name = q.regions.get? name :=
    fun name hname => h.regions name fun heq => hsource (heq ▸ hname)
  cases source with
  | content => rw [sourceNodes, sourceNodes, h.renderable]
  | region name => rw [sourceNodes, sourceNodes, hregion name rfl]
  | cloneRegion name => rw [sourceNodes, sourceNodes, hregion name rfl]
  | chrome name => exact chromeNodes_eq h hchrome name
  | _ => rfl

end Layout

namespace Slot

theorem admits_eq (h : p.AgreesExcept r q) {s : Slot} (hs : s.conditionalRegion ≠ some r) :
    s.admits p = s.admits q := by
  have hflag : p.flag = q.flag := funext h.flag_eq
  rw [admits, admits, hflag]
  cases hregion : s.conditionalRegion with
  | none => rfl
  | some name =>
    rw [Option.all_some, Option.all_some, h.contains_eq fun heq => hs (heq ▸ hregion)]

theorem builtClasses_eq (h : p.AgreesExcept r q) {s : Slot}
    (hs : s.modifier.map RegionModifier.region ≠ some r) :
    s.builtClasses p = s.builtClasses q := by
  rw [builtClasses, builtClasses]
  cases hm : s.modifier with
  | none => rfl
  | some m =>
    rw [hm, Option.map_some] at hs
    simp only [h.contains_eq fun heq => hs (congrArg some heq)]

section

variable {l : Layout} (h : p.AgreesExcept r q)
  (hchrome : ∀ c ∈ l.chrome.values, ∀ path ∈ c.paths, ¬ Page.StartsAtRegions path)
  (widgets : Dict (Option Element))

include h hchrome

mutual

/-- A slot is built alike if it names the region nowhere. -/
theorem build_eq_of_unread : ∀ s : Slot, r ∉ s.regionNames →
    (∀ c ∈ s.fragments, ∀ path ∈ c.paths, ¬ Page.StartsAtRegions path) →
    s.build l p widgets = s.build l q widgets
  | ⟨tag, classes, source, conditional, condition, region, modifier, wrapper, attrs, children⟩ => by
    intro hregions hpaths
    rw [regionNames] at hregions
    rw [fragments] at hpaths
    simp only [List.mem_append, not_or, Option.mem_toList] at hregions
    obtain ⟨⟨⟨hsource, hregion⟩, hmodifier⟩, hchildren⟩ := hregions
    have hbelow := buildAll_eq_of_unread children hchildren hpaths
    unfold build
    rw [admits_eq h hregion, builtClasses_eq h hmodifier, hbelow]
    cases source with
    | none => rfl
    | some source => simp only [Layout.sourceNodes_eq h hchrome widgets hsource]

theorem buildAll_eq_of_unread : ∀ children : List SlotChild, r ∉ regionNamesAll children →
    (∀ c ∈ fragmentsAll children, ∀ path ∈ c.paths, ¬ Page.StartsAtRegions path) →
    buildAll l p widgets children = buildAll l q widgets children
  | [], _, _ => rfl
  | .chrome name :: rest, hregions, hpaths => by
    rw [buildAll, buildAll, Layout.chromeNodes_eq h hchrome name,
      buildAll_eq_of_unread rest hregions hpaths]
  | .text s :: rest, hregions, hpaths => by
    rw [buildAll, buildAll, buildAll_eq_of_unread rest hregions hpaths]
  | .slot s :: rest, hregions, hpaths => by
    rw [regionNamesAll, List.mem_append, not_or] at hregions
    rw [fragmentsAll, List.forall_mem_append] at hpaths
    rw [buildAll, buildAll, build_eq_of_unread s hregions.1 hpaths.1,
      buildAll_eq_of_unread rest hregions.2 hpaths.2]
  | .entry c :: rest, hregions, hpaths => by
    rw [fragmentsAll, List.forall_mem_cons] at hpaths
    rw [buildAll, buildAll, c.build_eq_of_unread h hpaths.1,
      buildAll_eq_of_unread rest hregions hpaths.2]

end

end

end Slot

/-! ## Layouts -/

/-- A region that a layout names nowhere has no influence on the composed page, if no path of its
fragments starts at the regions. -/
theorem Layout.compose_eq_of_unread {l : Layout} {r : String} {p q : Page} (hhook : l.hook = none)
    (h : p.AgreesExcept r q) (hregions : r ∉ l.regionNames)
    (hpaths : ∀ path ∈ l.paths, ¬ Page.StartsAtRegions path) (pre : String) :
    l.compose p pre = l.compose q pre := by
  rw [regionNames, List.mem_append, not_or] at hregions
  obtain ⟨hslots, hwidgets⟩ := hregions
  have hfragments : ∀ c ∈ l.chrome.values ++ l.slots.values.flatMap Slot.fragments,
      ∀ path ∈ c.paths, ¬ Page.StartsAtRegions path :=
    fun c hc path hpath => hpaths path (List.mem_flatMap.mpr ⟨c, hc, hpath⟩)
  obtain ⟨hchrome, hinner⟩ := List.forall_mem_append.mp hfragments
  have hresolved : l.resolved p pre = l.resolved q pre := by
    rw [resolved, resolved, Dict.mapValues, Dict.mapValues]
    congr 1
    refine List.map_congr_left fun w hw => ?_
    have hname : w.2.regionName ≠ r := fun heq =>
      hwidgets (List.mem_map.mpr ⟨w.2, List.mem_map_of_mem hw, heq⟩)
    rw [w.2.resolve_eq_of_unread h hname]
  have hbuilt : ∀ s ∈ l.slots.values, ∀ widgets, s.build l p widgets = s.build l q widgets := by
    intro s hs widgets
    refine Slot.build_eq_of_unread h hchrome widgets s ?_ ?_
    · exact fun hmem => hslots (List.mem_flatMap.mpr ⟨s, hs, hmem⟩)
    · exact fun c hc => hinner c (List.mem_flatMap.mpr ⟨s, hs, hc⟩)
  rw [compose, compose, hresolved, hhook]
  dsimp only
  congr 1
  exact List.filterMap_congr fun s hs => by rw [hbuilt s hs]

/-! ## A page with and without a banner -/

/-- A layout with the navigation and its breadcrumb, a nested slot and fragments bound to pages. -/
def docsLayout : Layout :=
  { block := "docs"
    slots := .ofList
      [("top", { tag := "header", classes := some "top", source := some (.computed "crumb"),
                 modifier := some ⟨"nav", "with-nav"⟩,
                 children := [.slot { tag := "aside", source := some (.cloneRegion "nav"),
                                      conditionalRegion := some "nav" },
                              .entry { tag := "p", pageText := some "frontmatter.summary" }] }),
       ("main", { tag := "main", source := some .content, children := [.chrome "links"] })]
    chrome := .ofList
      [("links", { tag := "a", attrs := .ofList [("href", .fromPage "url")],
                   children := [.entry { tag := "b", pageText := some "title" }] })]
    widgets := .ofList [("crumb", { kind := .breadcrumb, source := "region:nav" })] }

/-- A page with a navigation. -/
def docsPage : Page :=
  { regions := .ofList [("nav", { name := "nav", content := [.text "Intro"] })]
    title := "Intro"
    url := "/docs/intro" }

/-- The same page with a banner. -/
def bannerPage : Page :=
  { docsPage with regions := docsPage.regions.insert "banner" { content := [.text "Sale"] } }

/-- The layout does not show the banner. -/
theorem Layout.compose_eq_of_unread_banner :
    docsLayout.hook = none ∧ docsPage.AgreesExcept "banner" bannerPage ∧
      "banner" ∉ docsLayout.regionNames ∧
      (∀ path ∈ docsLayout.paths, ¬ Page.StartsAtRegions path) ∧
      docsLayout.compose docsPage "rf" = docsLayout.compose bannerPage "rf" := by
  have hagree : docsPage.AgreesExcept "banner" bannerPage := by
    refine ⟨rfl, fun other hother => ?_, rfl, rfl, rfl, rfl, rfl⟩
    rw [bannerPage, Dict.get?_insert, if_neg hother]
  have hnames : docsLayout.regionNames = ["nav", "nav", "nav", "nav"] := by cbv
  have hpaths : docsLayout.paths = ["url", "title", "frontmatter.summary"] := by cbv
  have hregions : "banner" ∉ docsLayout.regionNames := by
    rw [hnames]
    decide
  have hstarts : ∀ path ∈ docsLayout.paths, ¬ Page.StartsAtRegions path := by
    rw [hpaths]
    decide +kernel
  exact ⟨rfl, hagree, hregions, hstarts,
    Layout.compose_eq_of_unread rfl hagree hregions hstarts "rf"⟩

end Livery
