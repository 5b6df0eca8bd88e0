import Mathlib.Data.List.Forall2
import Livery.Proofs.Fragments
import Livery.Proofs.Texts

/-!
# Markup in fragments

The text of an element that is marked with `rawMarkupKey` is emitted as it is. Every element of a
built fragment has an `Origin` : a fragment, or an item of an array that a fragment goes through.
`Chrome.origins` lists them in document order, and `Chrome.raw_iff_markup` compares them with the
elements one by one : an element is marked if and only if its fragment has markup of its own, which
then is all that stands in the element. What is marked is thus written in the configuration
(`Chrome.markups`) and never comes from a page.

The mark is an attribute, so none of the fragments may set this attribute itself.
-/

namespace Livery

open Text (nonEmpty?)

/-- Whether an element is marked : its text is emitted as it is. -/
def Element.isRaw (e : Element) : Bool := e.attrs.contains rawMarkupKey

/-- The element for an item of an array. -/
def Iteration.element (i : Iteration) (value : Json) : Element :=
  ⟨i.tag, Dict.ofList ((i.classes.map fun s => ("class", s)).toList), [.text value.display]⟩

theorem Iteration.isRaw_element (i : Iteration) (value : Json) :
    (i.element value).isRaw = false := by
  rw [Element.isRaw, element]
  cases i.classes <;> rfl

namespace Chrome

/-- The markup of a fragment and of the fragments nested in it. -/
def markups (c : Chrome) : List String := c.entries.filterMap fun d => nonEmpty? d.markup

/-! ## Origins -/

/-- What an element of a built fragment was made for. -/
inductive Origin
  /-- A fragment, labelled with a name. -/
  | fragment (c : Chrome) (name : String)
  /-- An item of the array that a fragment goes through. -/
  | item (c : Chrome) (i : Iteration) (value : Json)

namespace Origin

/-- The fragment that an element belongs to. -/
def chrome : Origin → Chrome
  | .fragment c _ => c
  | .item c _ _ => c

/-- The element that is made on a page, if one is made. -/
def element? (page : Page) : Origin → Option Element
  | .fragment c name => c.build page name
  | .item _ i value => some (i.element value)

/-- Whether the text of the element is a text of the page. -/
def showsPage : Origin → Bool
  | .fragment c _ => match c.content with
    | .pageText _ => true
    | _ => false
  | .item _ _ _ => true

/-- How an element on a page has to do with its origin. -/
structure Explains (page : Page) (o : Origin) (e : Element) : Prop where
  built : o.element? page = some e
  /-- The mark stands for markup of the fragment. -/
  raw_iff : e.isRaw = true ↔ (nonEmpty? o.chrome.markup).isSome
  /-- The markup is all that stands in the element, as it was written. -/
  children : ∀ s, nonEmpty? o.chrome.markup = some s → e.children = [.text s]
  /-- Texts of the page are not marked. -/
  not_raw : o.showsPage = true → e.isRaw = false

end Origin

/-- The values that a fragment makes an element for; anything but an array has none. -/
def items (page : Page) (i : Iteration) : List Json :=
  match page.lookup? i.source with
  | some (.arr values) => values
  | _ => []

mutual

/-- The origins of the elements that are built for a fragment, in document order. -/
def origins (page : Page) : Chrome → String → List Origin
  | c@⟨_, _, _, _, _, _, _, _, _, _, _, children⟩, name =>
    if c.admits page then
      .fragment c name ::
        match c.content with
        | .markup _ => []
        | .pageText _ => []
        | .iteration i => (items page i).map (.item c i)
        | .children => originsAll page children
    else []

/-- The origins of the elements that are built for children of a fragment. -/
def originsAll (page : Page) : List ChromeChild → List Origin
  | [] => []
  | .text _ :: rest => originsAll page rest
  | .entry c :: rest => origins page c (c.label.getD "") ++ originsAll page rest

end

/-- The origins below a child of a fragment. -/
def childOrigins (page : Page) : ChromeChild → List Origin
  | .text _ => []
  | .entry c => c.origins page (c.label.getD "")

theorem originsAll_eq (page : Page) :
    ∀ l : List ChromeChild, originsAll page l = l.flatMap (childOrigins page)
  | [] => by rw [originsAll, List.flatMap_nil]
  | .text _ :: rest => by rw [originsAll, originsAll_eq page rest]; rfl
  | .entry _ :: rest => by rw [originsAll, originsAll_eq page rest]; rfl

/-- The origins below the element of a fragment. -/
def innerOrigins (c : Chrome) (page : Page) : List Origin :=
  match c.content with
  | .markup _ => []
  | .pageText _ => []
  | .iteration i => (items page i).map (.item c i)
  | .children => c.children.flatMap (childOrigins page)

theorem origins_eq (page : Page) (c : Chrome) (name : String) : c.origins page name =
    if c.admits page then .fragment c name :: c.innerOrigins page else [] := by
  cases c
  rw [origins, originsAll_eq]
  rfl

theorem origins_eq_nil {page : Page} {c : Chrome} {name : String} (h : c.build page name = none) :
    c.origins page name = [] := by
  rw [build_eq] at h
  rw [origins_eq]
  cases hadmits : c.admits page with
  | false => rfl
  | true =>
    rw [hadmits, if_pos rfl] at h
    cases h

/-! ## The mark -/

theorem iterated_eq (i : Iteration) (page : Page) :
    iterated i page = (items page i).map fun value => .element (i.element value) := by
  unfold iterated items
  cases page.lookup? i.source with
  | none => rfl
  | some v => cases v <;> rfl

theorem not_contains_builtAttrs {c : Chrome} (hc : c.attrs.contains rawMarkupKey = false)
    (name : String) (page : Page) : (c.builtAttrs name page).contains rawMarkupKey = false := by
  rw [Dict.contains, Option.isSome_eq_false_iff, Option.isNone_iff_eq_none] at hc ⊢
  rw [builtAttrs, Dict.get?_extend_entries, Dict.get?_mapValues, hc, Option.map_none,
    Option.none_or]
  split <;> rfl

theorem contains_markedAttrs {c : Chrome} (hc : c.attrs.contains rawMarkupKey = false)
    (name : String) (page : Page) :
    (c.markedAttrs name page).contains rawMarkupKey = (nonEmpty? c.markup).isSome := by
  have hbuilt := not_contains_builtAttrs hc name page
  rw [markedAttrs, content]
  cases hmarkup : nonEmpty? c.markup with
  | some s => rw [Dict.contains_insert, decide_eq_true rfl, Bool.true_or, Option.isSome_some]
  | none =>
    cases nonEmpty? c.pageText with
    | some path => exact hbuilt
    | none => cases c.iteration <;> exact hbuilt

theorem markup_of_content {c : Chrome} (h : ∀ s, c.content ≠ .markup s) :
    nonEmpty? c.markup = none := by
  cases hmarkup : nonEmpty? c.markup with
  | none => rfl
  | some s => exact absurd (by rw [content, hmarkup]) (h s)

theorem content_of_markup {c : Chrome} {s : String} (h : nonEmpty? c.markup = some s) :
    c.content = .markup s := by
  rw [content, h]

/-- The element of a fragment is marked if the fragment has markup, and then holds only this. -/
theorem explains_fragment {c : Chrome} (hc : c.attrs.contains rawMarkupKey = false)
    {name : String} {page : Page} {e : Element} (h : c.build page name = some e) :
    Origin.Explains page (.fragment c name) e := by
  have hbuild := h
  rw [build_eq, Option.ite_none_right_eq_some, Option.some.injEq] at hbuild
  obtain ⟨-, rfl⟩ := hbuild
  have hraw := contains_markedAttrs hc name page
  refine ⟨h, by rw [Element.isRaw, hraw]; rfl, fun s hs => ?_, fun hshows => ?_⟩
  · have hcontent : c.content = .markup s := content_of_markup hs
    show c.contentNodes page = _
    rw [contentNodes, hcontent]
  · rw [Element.isRaw, hraw, markup_of_content, Option.isSome_none]
    intro s hs
    rw [Origin.showsPage, hs] at hshows
    cases hshows

theorem explains_item {c : Chrome} {i : Iteration} (hc : c.content = .iteration i) (page : Page)
    (value : Json) : Origin.Explains page (.item c i value) (i.element value) := by
  have hmarkup : nonEmpty? c.markup = none := markup_of_content fun s hs => by simp [hs] at hc
  refine ⟨rfl, ?_, fun s hs => ?_, fun _ => i.isRaw_element value⟩
  · rw [i.isRaw_element value, Origin.chrome, hmarkup]
    simp
  · rw [Origin.chrome, hmarkup] at hs
    cases hs

/-! ## Origins and elements -/

theorem chrome_of_mem_origins {page : Page} (c : Chrome) : ∀ {name : String} {o : Origin},
    o ∈ c.origins page name → o.chrome ∈ c.entries := by
  induction c using induct with
  | h c ih =>
    intro name o ho
    rw [origins_eq] at ho
    split at ho
    · rcases List.mem_cons.mp ho with rfl | ho
      · exact c.mem_entries_self
      rw [innerOrigins] at ho
      split at ho
      · cases ho
      · cases ho
      · obtain ⟨value, -, rfl⟩ := List.mem_map.mp ho
        exact c.mem_entries_self
      · obtain ⟨child, hchild, ho⟩ := List.mem_flatMap.mp ho
        cases child with
        | text s => cases ho
        | entry d => exact entries_subset hchild (ih d hchild ho)
    · cases ho

/-- The elements for the items of an array are those of the items. -/
theorem forall₂_items {c : Chrome} {i : Iteration} (hc : c.content = .iteration i) (page : Page) :
    List.Forall₂ (Origin.Explains page) ((items page i).map (.item c i))
      ((iterated i page).flatMap Node.elements) := by
  rw [iterated_eq]
  induction items page i with
  | nil => exact List.Forall₂.nil
  | cons value rest ih =>
    have helements : (Node.element (i.element value)).elements = [i.element value] := by
      rw [Node.elements_element, Iteration.element, List.flatMap_singleton,
        Node.elements_leaf rfl]
    rw [List.map_cons, List.map_cons, List.flatMap_cons, helements]
    exact List.Forall₂.cons (explains_item hc page value) ih

/-- The elements of a built fragment are those of its origins, one by one. -/
theorem forall₂_explains {page : Page} (c : Chrome) :
    (∀ d ∈ c.entries, d.attrs.contains rawMarkupKey = false) → ∀ {name : String} {e : Element},
      c.build page name = some e →
        List.Forall₂ (Origin.Explains page) (c.origins page name) (Node.element e).elements := by
  induction c using induct with
  | h c ih =>
    intro hc name e he
    have hself := explains_fragment (hc c c.mem_entries_self) he
    rw [build_eq, Option.ite_none_right_eq_some, Option.some.injEq] at he
    obtain ⟨hadmits, rfl⟩ := he
    rw [origins_eq, if_pos hadmits, Node.elements_element]
    refine List.Forall₂.cons hself ?_
    show List.Forall₂ _ (c.innerOrigins page) ((c.contentNodes page).flatMap Node.elements)
    unfold innerOrigins contentNodes
    cases hcontent : c.content with
    | markup s => exact List.Forall₂.nil
    | pageText path => exact List.Forall₂.nil
    | iteration i => exact forall₂_items hcontent page
    | children =>
      dsimp only
      rw [List.flatMap_assoc]
      refine List.rel_flatMap (R := fun x y => x = y ∧ x ∈ c.children)
        (List.forall₂_same.mpr fun x hx => And.intro rfl hx) ?_
      rintro x _ ⟨rfl, hx⟩
      cases x with
      | text s => exact List.Forall₂.nil
      | entry d =>
        show List.Forall₂ _ (d.origins page (d.label.getD ""))
          (((d.build page (d.label.getD "")).map Node.element).toList.flatMap Node.elements)
        cases hd : d.build page (d.label.getD "") with
        | none =>
          rw [origins_eq_nil hd]
          exact List.Forall₂.nil
        | some e =>
          rw [Option.map_some, Option.toList_some, List.flatMap_singleton]
          exact ih d hx (fun x hmem => hc x (entries_subset hx hmem)) hd

/-! ## Marked elements -/

/-- The markup that origins stand for. -/
def originMarkups (l : List Origin) : List String := l.filterMap fun o => nonEmpty? o.chrome.markup

/-- The marked elements hold the markup of their origins. -/
theorem map_children_raw {page : Page} : ∀ {l : List Origin} {es : List Element},
    List.Forall₂ (Origin.Explains page) l es →
      (es.filter Element.isRaw).map Element.children =
        (originMarkups l).map fun s => [Node.text s]
  | _, _, .nil => rfl
  | o :: l, e :: es, .cons h hrest => by
    have ih := map_children_raw hrest
    rw [originMarkups] at ih ⊢
    rw [List.filter_cons, List.filterMap_cons]
    cases hmarkup : nonEmpty? o.chrome.markup with
    | none =>
      have hraw : ¬ e.isRaw = true := by simp [h.raw_iff, hmarkup]
      rw [if_neg hraw, ih]
    | some s =>
      rw [if_pos (h.raw_iff.mpr (by rw [hmarkup]; rfl)), List.map_cons, ih, h.children s hmarkup,
        List.map_cons]

theorem originMarkups_items {c : Chrome} {i : Iteration} (hc : c.content = .iteration i)
    (values : List Json) : originMarkups (values.map (.item c i)) = [] := by
  have hmarkup : nonEmpty? c.markup = none := markup_of_content fun s hs => by simp [hs] at hc
  simp [originMarkups, Origin.chrome, hmarkup]

theorem originMarkups_sublist_of_children {page : Page} {c : Chrome} (name : String)
    (h : (originMarkups (originsAll page c.children)).Sublist
      ((entriesAll c.children).filterMap fun d => nonEmpty? d.markup)) :
    (originMarkups (c.origins page name)).Sublist c.markups := by
  have hinner : (originMarkups (c.innerOrigins page)).Sublist
      ((entriesAll c.children).filterMap fun d => nonEmpty? d.markup) := by
    unfold innerOrigins
    cases hcontent : c.content with
    | markup s => exact List.nil_sublist _
    | pageText path => exact List.nil_sublist _
    | iteration i =>
      dsimp only
      rw [originMarkups_items hcontent]
      exact List.nil_sublist _
    | children => rwa [originsAll_eq] at h
  rw [origins_eq, markups, entries_eq]
  split
  · rw [originMarkups, List.filterMap_cons, List.filterMap_cons, Origin.chrome]
    cases nonEmpty? c.markup with
    | none => exact hinner
    | some s => exact hinner.cons_cons s
  · exact List.nil_sublist _

mutual

/-- The markup of a built fragment is written in the fragment, in the same order. -/
theorem originMarkups_sublist (page : Page) : ∀ (c : Chrome) (name : String),
    (originMarkups (c.origins page name)).Sublist c.markups
  | ⟨_, _, _, _, _, _, _, _, _, _, _, children⟩, name =>
    originMarkups_sublist_of_children name (originMarkups_sublist_all page children)

theorem originMarkups_sublist_all (page : Page) : ∀ children : List ChromeChild,
    (originMarkups (originsAll page children)).Sublist
      ((entriesAll children).filterMap fun d => nonEmpty? d.markup)
  | [] => List.nil_sublist _
  | .text _ :: rest => originMarkups_sublist_all page rest
  | .entry c :: rest => by
    rw [originsAll, entriesAll, originMarkups, List.filterMap_append, List.filterMap_append]
    exact (originMarkups_sublist page c _).append (originMarkups_sublist_all page rest)

end

/-- Every element of a built fragment has an origin in the fragment. It is marked if and only if its
fragment has markup, which then is all that it holds : texts of the page are not marked. On every
page, what the marked elements hold is markup that is written in the fragment. -/
theorem raw_iff_markup {c : Chrome} (hc : ∀ d ∈ c.entries, d.attrs.contains rawMarkupKey = false)
    {name : String} {page : Page} {e : Element} (he : c.build page name = some e) :
    List.Forall₂ (Origin.Explains page) (c.origins page name) (Node.element e).elements ∧
      (∀ o ∈ c.origins page name, o.chrome ∈ c.entries) ∧
      ∃ l : List String, l.Sublist c.markups ∧
        ((Node.element e).elements.filter Element.isRaw).map Element.children =
          l.map fun s => [Node.text s] := by
  have hexplains := forall₂_explains c hc he
  exact ⟨hexplains, fun o ho => chrome_of_mem_origins c ho,
    _, originMarkups_sublist page c name, map_children_raw hexplains⟩

/-! ## A header with an icon -/

/-- A header with an icon, the title of the page and its tags. The icon names a text of the page as
well, which its markup hides. -/
def header : Chrome :=
  { tag := "header"
    attrs := .ofList [("title", .fromPage "title")]
    children :=
      [.entry { tag := "span", markup := some "<svg/>", pageText := some "title" },
       .entry { tag := "h1", pageText := some "title" },
       .entry { tag := "ul", iteration := some ⟨"frontmatter.tags", "li", some "tag"⟩ }] }

/-- A page with markup in its texts. -/
def headerPage : Page :=
  { title := "<b>Intro</b>", frontmatter := .ofList [("tags", .arr [.str "<svg/>"])] }

/-- Only the icon of the header is marked, although a text of the page looks alike. -/
theorem raw_iff_markup_header :
    (∀ d ∈ header.entries, d.attrs.contains rawMarkupKey = false) ∧ ∃ e : Element,
      header.build headerPage "header" = some e ∧
      ((Node.element e).elements.map fun x => (x.name, x.isRaw)) =
        [("header", false), ("span", true), ("h1", false), ("ul", false), ("li", false)] ∧
      List.Forall₂ (Origin.Explains headerPage) (header.origins headerPage "header")
        (Node.element e).elements ∧
      (∀ o ∈ header.origins headerPage "header", o.chrome ∈ header.entries) ∧
      ∃ l : List String, l.Sublist header.markups ∧
        ((Node.element e).elements.filter Element.isRaw).map Element.children =
          l.map fun s => [Node.text s] := by
  have hattrs : ∀ d ∈ header.entries, d.attrs.contains rawMarkupKey = false := by
    have hentries : (header.entries.map fun d => d.attrs.contains rawMarkupKey) =
        [false, false, false, false] := by cbv
    intro d hd
    have hmem := List.mem_map_of_mem (f := fun d => d.attrs.contains rawMarkupKey) hd
    rw [hentries] at hmem
    simpa using hmem
  have hbuild : header.build headerPage "header" =
      some ⟨"header", header.markedAttrs "header" headerPage, header.contentNodes headerPage⟩ := by
    rw [build_eq]
    rfl
  refine ⟨hattrs, _, hbuild, ?_, raw_iff_markup hattrs hbuild⟩
  cbv

end Chrome

end Livery
