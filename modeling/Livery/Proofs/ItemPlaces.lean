import Livery.Proofs.Stops
import Livery.Proofs.Texts

/-!
# Where the items of a navigation stand

`Navigation.items` goes from element to element and stops at items. So it passes over what stands
in an array of siblings, and over items inside of items. `Node.places` passes over nothing : it
lists the elements of a document in document order (`elements_eq_map_places`), each with all that
stands around it.

`stops_eq_filterMap_places` says which of these places are stops of the navigation : those of items
with nothing around them but elements that are no items (`Place.isOpen`). From this comes what is
never skipped. An item outside of arrays and of other items is listed once and in its place, and its
page has a category if the innermost group around the item has a title (`no_item_skipped`).
-/

namespace Livery

/-! ## Places -/

/-- An element of a document with the nodes around it, innermost first. -/
structure Place where
  element : Element
  above : List Node

namespace Node

mutual

/-- The places at and below a node with the given nodes around it. -/
def places (above : List Node) : Node → List Place
  | .array nodes => placesAll (.array nodes :: above) nodes
  | .element e@⟨_, _, children⟩ => ⟨e, above⟩ :: placesAll (.element e :: above) children
  | _ => []

/-- The places of a list of nodes, in document order. -/
def placesAll (above : List Node) : List Node → List Place
  | [] => []
  | n :: rest => places above n ++ placesAll above rest

end

theorem placesAll_eq (above : List Node) :
    ∀ l : List Node, placesAll above l = l.flatMap (places above)
  | [] => rfl
  | n :: rest => congrArg (places above n ++ ·) (placesAll_eq above rest)

theorem places_leaf (above : List Node) {n : Node} (h : n.isBranch = false) :
    places above n = [] := by
  cases n <;> first | rfl | cases h

theorem places_array (above : List Node) (nodes : List Node) :
    places above (.array nodes) = nodes.flatMap (places (.array nodes :: above)) :=
  placesAll_eq _ nodes

theorem places_element (above : List Node) (e : Element) :
    places above (.element e) =
      ⟨e, above⟩ :: e.children.flatMap (places (.element e :: above)) := by
  obtain ⟨name, attrs, children⟩ := e
  exact congrArg (_ :: ·) (placesAll_eq _ children)

/-- The places are those of all elements, in document order. -/
theorem elements_eq_map_places (n : Node) (above : List Node) :
    n.elements = (places above n).map Place.element := by
  induction n using Node.induct generalizing above with
  | leaf n hn =>
    rw [places_leaf above hn, elements_leaf hn, List.map_nil]
  | array nodes ih =>
    rw [elements_array, places_array, List.map_flatMap]
    exact List.flatMap_congr fun m hm => ih m hm _
  | element e ih =>
    rw [elements_element, places_element, List.map_cons, List.map_flatMap]
    exact congrArg _ (List.flatMap_congr fun m hm => ih m hm _)

theorem elementsAll_eq_map_places (l : List Node) :
    elementsAll l = (placesAll [] l).map Place.element := by
  rw [elementsAll_eq, placesAll_eq, List.map_flatMap]
  exact List.flatMap_congr fun n _ => n.elements_eq_map_places []

/-- What stands around a node stands around all places in it. -/
theorem above_subset {n : Node} {above : List Node} {p : Place} (hp : p ∈ places above n) :
    above ⊆ p.above := by
  induction n using Node.induct generalizing above with
  | leaf n hn => simp [places_leaf above hn] at hp
  | array nodes ih =>
    rw [places_array, List.mem_flatMap] at hp
    obtain ⟨m, hm, hp⟩ := hp
    exact List.Subset.trans (List.subset_cons_self _ _) (ih m hm hp)
  | element e ih =>
    rw [places_element, List.mem_cons, List.mem_flatMap] at hp
    obtain rfl | ⟨m, hm, hp⟩ := hp
    · exact List.Subset.refl _
    · exact List.Subset.trans (List.subset_cons_self _ _) (ih m hm hp)

end Node

namespace Navigation

/-! ## Items and what is around them -/

/-- The slug of an element that is an item. -/
def itemSlug? (e : Element) : Option String :=
  if e.typeOf? = some itemType then slug? e else none

/-- The slugs of all items of a navigation, in document order. -/
def allSlugs (nav : List Node) : List String := (Node.elementsAll nav).filterMap itemSlug?

/-- A node is an item. -/
def isItem (n : Node) : Bool := n.asElement?.any fun e => e.typeOf? = some itemType

/-- A node is an array of siblings. -/
def isArray : Node → Bool
  | .array _ => true
  | _ => false

end Navigation

namespace Place

open Navigation

/-- The slug of the element, if it is an item. -/
def slug? (p : Place) : Option String := itemSlug? p.element

/-- The place is inside of an item. -/
def inItem (p : Place) : Bool := p.above.any isItem

/-- The place is inside of an array of siblings. -/
def inArray (p : Place) : Bool := p.above.any isArray

/-- There is nothing around the place that a navigation is not searched through. -/
def isOpen (p : Place) : Bool := !p.inItem && !p.inArray

/-- The innermost group around the place. -/
def group? (p : Place) : Option Element :=
  (p.above.filterMap Node.asElement?).find? fun e => e.typeOf? = some groupType

/-- The stop at the place, if its element is an item with a slug. -/
def stop? (p : Place) : Option Stop :=
  p.slug?.map fun slug => ⟨p.element, slug, p.above.filterMap Node.asElement?⟩

theorem isOpen_of_subset {p : Place} {above : List Node} (h : above ⊆ p.above)
    {n : Node} (hn : n ∈ above) (hclosed : isItem n = true ∨ isArray n = true) :
    p.isOpen = false := by
  have hmem := h hn
  rw [isOpen, inItem, inArray, Bool.and_eq_false_iff, Bool.not_eq_false', Bool.not_eq_false',
    List.any_eq_true, List.any_eq_true]
  exact hclosed.imp (fun h => ⟨n, hmem, h⟩) fun h => ⟨n, hmem, h⟩

end Place

namespace Navigation

open Node (places placesAll)

/-- Inside of an item or an array no place is open. -/
theorem filter_isOpen_eq_nil {n : Node} {above : List Node} {m : Node} (hm : m ∈ above)
    (hclosed : isItem m = true ∨ isArray m = true) :
    (places above n).filter Place.isOpen = [] := by
  rw [List.filter_eq_nil_iff]
  intro p hp
  rw [Place.isOpen_of_subset (Node.above_subset hp) hm hclosed]
  exact Bool.false_ne_true

/-- The stops at a node are the open places of items, in document order. -/
theorem stops_eq_filterMap_places (n : Node) (above : List Node)
    (h : ∀ m ∈ above, isItem m = false ∧ isArray m = false) :
    stops (above.filterMap Node.asElement?) n =
      ((places above n).filter Place.isOpen).filterMap Place.stop? := by
  induction n using Node.induct generalizing above with
  | leaf n hn =>
    rw [stops_leaf _ (Node.isElement_of_isBranch hn), Node.places_leaf above hn]
    rfl
  | array nodes =>
    have hnone : (places above (.array nodes)).filter Place.isOpen = [] := by
      rw [Node.places_array, List.filter_flatMap, List.flatMap_eq_nil_iff]
      exact fun m _ => filter_isOpen_eq_nil List.mem_cons_self (Or.inr rfl)
    rw [stops_leaf _ rfl, hnone]
    rfl
  | element e ih =>
    have hopen : Place.isOpen ⟨e, above⟩ = true := by
      simp only [Place.isOpen, Place.inItem, Place.inArray, Bool.and_eq_true, Bool.not_eq_true',
        List.any_eq_false]
      exact ⟨fun m hm => by simp [(h m hm).1], fun m hm => by simp [(h m hm).2]⟩
    rw [Node.places_element, List.filter_cons_of_pos hopen, List.filter_flatMap]
    by_cases hitem : e.typeOf? = some itemType
    · -- The walk does not go into an item, and no place in it is open.
      have hbelow : (e.children.flatMap fun m =>
          (places (.element e :: above) m).filter Place.isOpen) = [] := by
        rw [List.flatMap_eq_nil_iff]
        refine fun m _ => filter_isOpen_eq_nil List.mem_cons_self (Or.inl ?_)
        simpa [isItem, Node.asElement?] using hitem
      rw [stops_item _ hitem, hbelow]
      cases hslug : slug? e <;> simp [Place.stop?, Place.slug?, itemSlug?, hitem, hslug]
    · have hnone : Place.stop? ⟨e, above⟩ = none := by
        simp [Place.stop?, Place.slug?, itemSlug?, hitem]
      have habove : ∀ m ∈ Node.element e :: above, isItem m = false ∧ isArray m = false := by
        refine List.forall_mem_cons.mpr ⟨⟨?_, rfl⟩, h⟩
        simpa [isItem, Node.asElement?] using hitem
      rw [stops_other _ hitem, List.filterMap_cons_none hnone, List.filterMap_flatMap]
      exact List.flatMap_congr fun m hm => ih m hm _ habove

theorem stopsAll_eq_filterMap_places (nav : List Node) :
    stopsAll [] nav = ((placesAll [] nav).filter Place.isOpen).filterMap Place.stop? := by
  rw [stopsAll_eq, Node.placesAll_eq, List.filter_flatMap, List.filterMap_flatMap]
  exact List.flatMap_congr fun n _ => stops_eq_filterMap_places n [] (by simp)

/-- The slugs that are searched are those of the items at open places. -/
theorem slugs_eq_filterMap_places (nav : List Node) :
    slugs nav = ((placesAll [] nav).filter Place.isOpen).filterMap Place.slug? := by
  have hslug : ∀ p : Place, (p.stop?.map Stop.slug) = p.slug? := by
    intro p
    rw [Place.stop?, Option.map_map]
    exact Option.map_id'
  rw [slugs_eq_map_stops, stopsAll_eq_filterMap_places, List.map_filterMap]
  simp only [hslug]

/-! ## What is never skipped -/

/-- The items with a slug that are in no other item, in document order. -/
def itemPlaces (nav : List Node) : List Place :=
  (placesAll [] nav).filter fun p => p.slug?.isSome && !p.inItem

theorem slugs_eq_filterMap_itemPlaces (nav : List Node) :
    (slugs nav).map some = ((itemPlaces nav).filter fun p => !p.inArray).map Place.slug? := by
  have hsome : ∀ l : List Place, (l.filterMap Place.slug?).map some =
      (l.filter fun p => p.slug?.isSome).map Place.slug? := by
    intro l
    induction l with
    | nil => rfl
    | cons p l ih =>
      cases hslug : p.slug? <;> simp [hslug, ih]
  rw [slugs_eq_filterMap_places, hsome, itemPlaces, List.filter_filter, List.filter_filter]
  refine congrArg _ (List.filter_congr fun p _ => ?_)
  rw [Place.isOpen]
  cases p.slug?.isSome <;> cases p.inItem <;> cases p.inArray <;> rfl

/-- The stop at the place of an item that is not skipped. -/
theorem exists_stop_of_mem_itemPlaces {nav : List Node} {p : Place} (hp : p ∈ itemPlaces nav)
    (harray : p.inArray = false) {slug : String} (hslug : p.slug? = some slug) :
    ∃ s ∈ stopsAll [] nav, s.slug = slug ∧ s.group? = p.group? := by
  rw [itemPlaces, List.mem_filter, Bool.and_eq_true, Bool.not_eq_true'] at hp
  obtain ⟨hmem, -, hitem⟩ := hp
  refine ⟨⟨p.element, slug, p.above.filterMap Node.asElement?⟩, ?_, rfl, rfl⟩
  rw [stopsAll_eq_filterMap_places, List.mem_filterMap]
  refine ⟨p, List.mem_filter.mpr ⟨hmem, ?_⟩, ?_⟩
  · rw [Place.isOpen, hitem, harray]
    rfl
  · rw [Place.stop?, hslug]
    rfl

/-- A stop in a group with a title gives a category to its page. -/
theorem exists_category?_of_mem_stopsAll {nav : List Node} {s : Stop} (hs : s ∈ stopsAll [] nav)
    {e : Element} (hgroup : s.group? = some e) (htitle : title e ≠ "") {url : String}
    (hslug : s.slug = slugOf url) : ∃ g, category? nav url = some g := by
  have hlisted : s.listed ∈ (itemsAll "" nav).filter
      fun i => i.slug = slugOf url && i.group ≠ "" := by
    rw [List.mem_filter, itemsAll_eq_map_stops]
    refine ⟨List.mem_map_of_mem hs, ?_⟩
    simp [Stop.listed, Stop.groupTitle?, hgroup, htitle, hslug]
  rw [← Option.isSome_iff_exists, category?, Option.isSome_map, List.getLast?_isSome]
  exact List.ne_nil_of_mem hlisted

/--
No item is skipped that is outside of arrays and of other items. The places are those of all
elements of the navigation, in document order. The slugs that are searched are those of items in no
other item, each listed once and in document order, with all items outside of arrays among them. If
the innermost group around such an item has a title, then there is a category for every page with
the slug of the item.
-/
theorem no_item_skipped (nav : List Node) :
    Node.elementsAll nav = (placesAll [] nav).map Place.element ∧
    (∃ listed : List Place, listed.Sublist (itemPlaces nav) ∧
      (listed.filter fun p => !p.inArray) = ((itemPlaces nav).filter fun p => !p.inArray) ∧
      (slugs nav).map some = listed.map Place.slug?) ∧
    ∀ p ∈ itemPlaces nav, p.inArray = false →
      ∀ e, p.group? = some e → title e ≠ "" →
        ∀ url, p.slug? = some (slugOf url) → ∀ pageTitle pre,
          ∃ crumb g, Widget.breadcrumb nav url pageTitle pre = some crumb ∧
            Widget.shownCategory? pre crumb = some g := by
  refine ⟨Node.elementsAll_eq_map_places nav, ?_, ?_⟩
  · refine ⟨(itemPlaces nav).filter fun p => !p.inArray, List.filter_sublist, ?_,
      slugs_eq_filterMap_itemPlaces nav⟩
    rw [List.filter_filter]
    simp only [Bool.and_self]
  · intro p hp harray e hgroup htitle url hslug pageTitle pre
    obtain ⟨s, hs, hsame, hgroup'⟩ := exists_stop_of_mem_itemPlaces hp harray hslug
    have hslug : s.slug = slugOf url := hsame
    obtain ⟨g, hg⟩ :=
      exists_category?_of_mem_stopsAll hs (hgroup'.trans hgroup) htitle hslug
    obtain ⟨crumb, hcrumb⟩ : ∃ crumb, Widget.breadcrumb nav url pageTitle pre = some crumb := by
      rw [Widget.breadcrumb, hg]
      exact ⟨_, rfl⟩
    exact ⟨crumb, g, hcrumb, (Widget.shownCategory?_of_breadcrumb hcrumb).trans hg⟩

/-- A group with an untitled list around one of its items, behind an array with another item. -/
def listedNav : List Node :=
  [.array [navItem "welcome"],
    navGroup "Basics" [navItem "intro", .element ⟨"ul", ∅, [navItem "install"]⟩]]

/-- The category of the page of an item inside of a list in a group. -/
theorem no_item_skipped_install :
    ∃ p ∈ itemPlaces listedNav, p.inArray = false ∧
      (∃ e, p.group? = some e ∧ title e ≠ "") ∧ p.slug? = some (slugOf "/docs/install/") ∧
      ∃ crumb g, Widget.breadcrumb listedNav "/docs/install/" "Install" "rf" = some crumb ∧
        Widget.shownCategory? "rf" crumb = some g := by
  have hplaces : (itemPlaces listedNav).map (fun p => (p.slug?, p.inArray, p.group?.map title)) =
      [(some "welcome", true, none), (some "intro", false, some "Basics"),
        (some "install", false, some "Basics")] := by cbv
  have hlast : (some "install", false, some "Basics") ∈
      (itemPlaces listedNav).map fun p => (p.slug?, p.inArray, p.group?.map title) := by
    rw [hplaces]
    decide
  obtain ⟨p, hp, heq⟩ := List.mem_map.mp hlast
  obtain ⟨hslug, harray, htitle⟩ : p.slug? = some "install" ∧ p.inArray = false ∧
      p.group?.map title = some "Basics" := by simpa using heq
  obtain ⟨e, hgroup, he⟩ := Option.map_eq_some_iff.mp htitle
  have hurl : slugOf "/docs/install/" = "install" := by cbv
  have hne : title e ≠ "" := by rw [he]; decide
  rw [← hurl] at hslug
  exact ⟨p, hp, harray, ⟨e, hgroup, hne⟩, hslug,
    (no_item_skipped listedNav).2.2 p hp harray e hgroup hne _ hslug "Install" "rf"⟩

/-- A group whose items stand in an array. -/
def arrayNav : List Node := [navGroup "Basics" [.array [navItem "intro", navItem "install"]]]

/-- A group with an item inside of another one. -/
def innerItemNav : List Node :=
  [navGroup "Basics"
    [.element ⟨"li", .ofList [("typeof", "NavItem")],
      [.element ⟨"span", .ofList [("property", "slug")], [.text "intro"]⟩,
        .element ⟨"ul", ∅, [navItem "install"]⟩]⟩]]

/-- Items in arrays and items inside of items are skipped. -/
theorem item_skipped :
    (slugs arrayNav ≠ allSlugs arrayNav ∧
      Widget.breadcrumb arrayNav "/docs/install" "Install" "rf" = none) ∧
    slugs innerItemNav ≠ allSlugs innerItemNav ∧
      Widget.breadcrumb innerItemNav "/docs/install" "Install" "rf" = none := by
  have harray : slugs arrayNav = [] ∧ allSlugs arrayNav = ["intro", "install"] :=
    ⟨by cbv, by cbv⟩
  have hnested : slugs innerItemNav = ["intro"] ∧ allSlugs innerItemNav = ["intro", "install"] :=
    ⟨by cbv, by cbv⟩
  refine ⟨⟨?_, by cbv⟩, ?_, by cbv⟩
  · rw [harray.1, harray.2]
    decide
  · rw [hnested.1, hnested.2]
    decide

end Navigation

end Livery
