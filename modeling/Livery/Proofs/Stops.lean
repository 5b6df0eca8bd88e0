import Mathlib
import Livery.Proofs.Walk
import Livery.Layout.Widget

/-!
# The items of a navigation and the groups around them

`Navigation.items` carries the title of the innermost group down to the items. `Navigation.stops`
lists the same items with everything that stands around them (`Stop`) : `itemsAll_eq_map_stops` says
that the title carried down is the title of the innermost group around the item, and
`slugs_eq_map_stops` that the slugs are those of the stops, in the same order.

A breadcrumb and links to neighbours look for the current item in different ways. The links go by
the first item with the slug of the page (`current?`), the breadcrumb by the last one in a group
with a title. `group_of_current` says what they agree on.
-/

namespace Livery

namespace Navigation

/-! ## Items -/

theorem itemsAll_eq (group : String) : ∀ l : List Node, itemsAll group l = l.flatMap (items group)
  | [] => by simp [itemsAll]
  | n :: rest => by simp [itemsAll, itemsAll_eq group rest]

theorem items_leaf (group : String) {n : Node} (h : n.isElement = false) : items group n = [] := by
  cases n <;> simp_all [items, Node.isElement, Node.asElement?]

theorem items_group (group : String) {e : Element} (h : e.typeOf? = some groupType) :
    items group (.element e) = e.children.flatMap (items (title e)) := by
  obtain ⟨name, attrs, children⟩ := e
  rw [items, if_pos h, itemsAll_eq]

theorem items_item (group : String) {e : Element} (h : e.typeOf? = some itemType) :
    items group (.element e) = (slug? e).toList.map fun slug => ⟨slug, group⟩ := by
  have hgroup : e.typeOf? ≠ some groupType := by rw [h]; decide
  obtain ⟨name, attrs, children⟩ := e
  rw [items, if_neg hgroup, if_pos h]

theorem items_other (group : String) {e : Element} (hgroup : e.typeOf? ≠ some groupType)
    (hitem : e.typeOf? ≠ some itemType) :
    items group (.element e) = e.children.flatMap (items group) := by
  obtain ⟨name, attrs, children⟩ := e
  rw [items, if_neg hgroup, if_neg hitem, itemsAll_eq]

/-! ## Stops -/

/-- An item of a navigation with its slug and the elements around it, innermost first. -/
structure Stop where
  item : Element
  slug : String
  above : List Element

namespace Stop

/-- The innermost group around the item. -/
def group? (s : Stop) : Option Element := s.above.find? fun e => e.typeOf? = some groupType

/-- The title of the innermost group around the item. -/
def groupTitle? (s : Stop) : Option String := s.group?.map title

end Stop

mutual

/-- The stops at and below a node with the given elements around it. -/
def stops (above : List Element) : Node → List Stop
  | .element e@⟨_, _, children⟩ =>
    if e.typeOf? = some itemType then (slug? e).toList.map fun slug => ⟨e, slug, above⟩
    else stopsAll (e :: above) children
  | _ => []

/-- The stops of a list of nodes, in document order. -/
def stopsAll (above : List Element) : List Node → List Stop
  | [] => []
  | n :: rest => stops above n ++ stopsAll above rest

end

theorem stopsAll_eq (above : List Element) :
    ∀ l : List Node, stopsAll above l = l.flatMap (stops above)
  | [] => by simp [stopsAll]
  | n :: rest => by simp [stopsAll, stopsAll_eq above rest]

theorem stops_leaf (above : List Element) {n : Node} (h : n.isElement = false) :
    stops above n = [] := by
  cases n <;> simp_all [stops, Node.isElement, Node.asElement?]

theorem stops_item (above : List Element) {e : Element} (h : e.typeOf? = some itemType) :
    stops above (.element e) = (slug? e).toList.map fun slug => ⟨e, slug, above⟩ := by
  obtain ⟨name, attrs, children⟩ := e
  rw [stops, if_pos h]

theorem stops_other (above : List Element) {e : Element} (h : e.typeOf? ≠ some itemType) :
    stops above (.element e) = e.children.flatMap (stops (e :: above)) := by
  obtain ⟨name, attrs, children⟩ := e
  rw [stops, if_neg h, stopsAll_eq]

/-- The item of a stop as the navigation lists it. -/
def Stop.listed (s : Stop) : NavItem := ⟨s.slug, s.groupTitle?.getD ""⟩

/-- The title that is carried down is that of the innermost group around an item. -/
theorem items_eq_map_stops (n : Node) (above : List Element) :
    items (((above.find? fun e => e.typeOf? = some groupType).map title).getD "") n =
      (stops above n).map Stop.listed := by
  induction n using Node.induct generalizing above with
  | leaf n hn =>
    rw [items_leaf _ (Node.isElement_of_isBranch hn), stops_leaf _ (Node.isElement_of_isBranch hn)]
    rfl
  | array nodes => rw [items_leaf _ rfl, stops_leaf _ rfl]; rfl
  | element e ih =>
    by_cases hitem : e.typeOf? = some itemType
    · rw [items_item _ hitem, stops_item _ hitem, List.map_map]
      rfl
    rw [stops_other _ hitem, List.map_flatMap,
      ← List.flatMap_congr fun m hm => ih m hm (e :: above)]
    by_cases hgroup : e.typeOf? = some groupType
    · rw [items_group _ hgroup, List.find?_cons_of_pos (by simpa using hgroup)]
      rfl
    · rw [items_other _ hgroup hitem, List.find?_cons_of_neg (by simpa using hgroup)]

theorem itemsAll_eq_map_stops (nav : List Node) :
    itemsAll "" nav = (stopsAll [] nav).map Stop.listed := by
  rw [itemsAll_eq, stopsAll_eq, List.map_flatMap]
  exact List.flatMap_congr fun n _ => items_eq_map_stops n []

theorem slugs_eq_map_stops (nav : List Node) : slugs nav = (stopsAll [] nav).map Stop.slug := by
  rw [slugs, itemsAll_eq_map_stops, List.map_map]
  rfl

/-- The breadcrumb names the innermost group around an item with the slug of the page. -/
theorem exists_stop_of_category? {nav : List Node} {url g : String}
    (h : category? nav url = some g) :
    ∃ s ∈ stopsAll [] nav, s.slug = slugOf url ∧ s.groupTitle? = some g := by
  obtain ⟨x, hlast, rfl⟩ := Option.map_eq_some_iff.mp h
  have hx := List.mem_of_getLast? hlast
  rw [itemsAll_eq_map_stops, List.mem_filter, List.mem_map] at hx
  obtain ⟨⟨s, hs, rfl⟩, hfits⟩ := hx
  simp only [Bool.and_eq_true, decide_eq_true_eq] at hfits
  obtain ⟨hslug, htitle⟩ : s.slug = slugOf url ∧ s.groupTitle?.getD "" ≠ "" := hfits
  refine ⟨s, hs, hslug, ?_⟩
  cases hg : s.groupTitle? with
  | none => simp [hg] at htitle
  | some g => simp [Stop.listed, hg]

/-! ## The current item -/

/-- The stop of the current page : the one at the place in the navigation that the links to the
neighbours of the page are counted from. -/
def current? (nav : List Node) (url : String) : Option Stop :=
  ((slugs nav).findIdx? (· = slugOf url)).bind fun i => (stopsAll [] nav)[i]?

/-- The current stop is the first one with the slug of the page. -/
theorem current?_eq_find? (nav : List Node) (url : String) :
    current? nav url = (stopsAll [] nav).find? fun s => s.slug = slugOf url := by
  rw [current?, slugs_eq_map_stops, List.findIdx?_map]
  exact (List.find?_eq_bind_findIdx?_getElem? ..).symm

end Navigation

/-- The category that a breadcrumb shows. -/
def Widget.shownCategory? (pre : String) (crumb : Element) : Option String :=
  (crumb.childElements.find? fun c =>
    c.attr? "class" = some (pre ++ "-docs-breadcrumb-category")).map Element.textContent

theorem Widget.shownCategory?_of_breadcrumb {nav : List Node} {url title pre : String}
    {crumb : Element} (h : breadcrumb nav url title pre = some crumb) :
    shownCategory? pre crumb = Navigation.category? nav url := by
  obtain ⟨g, hg, rfl⟩ := Option.map_eq_some_iff.mp h
  rw [hg]
  simp [shownCategory?, Element.childElements, textElement, Node.asElement?, Element.attr?,
    Dict.get?_insert, Element.textContent, Node.textContent, Node.leaves, Node.leavesAll,
    Leaf.content, String.join]

namespace Navigation

/--
Breadcrumbs and links to neighbours agree on the group of a page as far as its items do. If a
breadcrumb shows a category then some item with the slug of the page has it as the title of the
innermost group around it, and there is a current item. The current item is in a group with this
title as well if the items with the slug of the page are all in groups with one title, or outside of
groups.
-/
theorem group_of_current {nav : List Node} {url title pre g : String} {crumb : Element}
    (h : Widget.breadcrumb nav url title pre = some crumb)
    (hg : Widget.shownCategory? pre crumb = some g) :
    (∃ s ∈ stopsAll [] nav, s.slug = slugOf url ∧ s.groupTitle? = some g) ∧
    ∃ s, current? nav url = some s ∧ s.slug = slugOf url ∧
      ((∀ s' ∈ stopsAll [] nav, s'.slug = slugOf url → s'.groupTitle? = s.groupTitle?) →
        ∃ e, s.group? = some e ∧ Navigation.title e = g) := by
  rw [Widget.shownCategory?_of_breadcrumb h] at hg
  obtain ⟨shown, hmem, hslug, hshown⟩ := exists_stop_of_category? hg
  refine ⟨⟨shown, hmem, hslug, hshown⟩, ?_⟩
  obtain ⟨s, hs⟩ : ∃ s, current? nav url = some s := by
    rw [← Option.isSome_iff_exists, current?_eq_find?, List.find?_isSome]
    exact ⟨shown, hmem, by simpa using hslug⟩
  have hcurrent : s.slug = slugOf url := by
    rw [current?_eq_find?] at hs
    simpa using List.find?_some hs
  refine ⟨s, hs, hcurrent, fun hsame => ?_⟩
  rw [hsame shown hmem hslug] at hshown
  exact Option.map_eq_some_iff.mp hshown

/-! ## Small navigations -/

/-- An item with a slug. -/
def navItem (slug : String) : Node :=
  .element ⟨"li", .ofList [("typeof", "NavItem")],
    [.element ⟨"span", .ofList [("property", "slug")], [.text slug]⟩]⟩

/-- A group with a title. -/
def navGroup (title : String) (nodes : List Node) : Node :=
  .element ⟨"section", .ofList [("typeof", "NavGroup")],
    .element ⟨"h2", ∅, [.text title]⟩ :: nodes⟩

/-- A group of two items. -/
def basicsNav : List Node := [navGroup "Basics" [navItem "intro", navItem "install"]]

/-- An item outside of the group with another item for the same page. -/
def strayNav : List Node := [navItem "intro", navGroup "Basics" [navItem "intro"]]

/-- Two groups with an item for the same page. -/
def sharedNav : List Node :=
  [navGroup "Basics" [navItem "intro"], navGroup "Guides" [navItem "intro"]]

/-- The only item for a page is in the group that its breadcrumb shows. -/
theorem group_of_current_install :
    ∃ crumb s e, Widget.breadcrumb basicsNav "/docs/install" "Install" "rf" = some crumb ∧
      Widget.shownCategory? "rf" crumb = some "Basics" ∧
      current? basicsNav "/docs/install" = some s ∧ s.group? = some e ∧ title e = "Basics" := by
  obtain ⟨crumb, hcrumb⟩ :
      ∃ crumb, Widget.breadcrumb basicsNav "/docs/install" "Install" "rf" = some crumb :=
    ⟨_, by cbv⟩
  have hshown : Widget.shownCategory? "rf" crumb = some "Basics" := by
    rw [Widget.shownCategory?_of_breadcrumb hcrumb]
    cbv
  obtain ⟨-, s, hs, hslug, hgroup⟩ := group_of_current hcrumb hshown
  have hall : ∀ s ∈ stopsAll [] basicsNav, s.groupTitle? = some "Basics" := by
    have htitles : (stopsAll [] basicsNav).map Stop.groupTitle? = [some "Basics", some "Basics"] :=
      by cbv
    intro s hs
    have hmem : s.groupTitle? ∈ (stopsAll [] basicsNav).map Stop.groupTitle? :=
      List.mem_map_of_mem hs
    simpa [htitles] using hmem
  have hmem : s ∈ stopsAll [] basicsNav := by
    rw [current?_eq_find?] at hs
    exact List.mem_of_find?_eq_some hs
  obtain ⟨e, he, htitle⟩ := hgroup fun s' hs' _ => (hall s' hs').trans (hall s hmem).symm
  exact ⟨crumb, s, e, hcrumb, hshown, hs, he, htitle⟩

/-- Otherwise the breadcrumb can show a group that the current item is not in : the current item may
stand outside of all groups, or in an earlier group. -/
theorem current_outside_category :
    ((Widget.breadcrumb strayNav "/docs/intro" "Intro" "rf").bind (Widget.shownCategory? "rf") =
        some "Basics" ∧
      ¬ ∃ s e, current? strayNav "/docs/intro" = some s ∧ s.group? = some e ∧
        title e = "Basics") ∧
    ((Widget.breadcrumb sharedNav "/docs/intro" "Intro" "rf").bind (Widget.shownCategory? "rf") =
        some "Guides" ∧
      ¬ ∃ s e, current? sharedNav "/docs/intro" = some s ∧ s.group? = some e ∧
        title e = "Guides") := by
  have hstray : (current? strayNav "/docs/intro").bind Stop.groupTitle? = none := by cbv
  have hshared : (current? sharedNav "/docs/intro").bind Stop.groupTitle? = some "Basics" := by cbv
  refine ⟨⟨by cbv, ?_⟩, by cbv, ?_⟩
  · rintro ⟨s, e, hs, he, -⟩
    simp [hs, Stop.groupTitle?, he] at hstray
  · rintro ⟨s, e, hs, he, htitle⟩
    simp [hs, Stop.groupTitle?, he, htitle] at hshared

end Navigation

end Livery
