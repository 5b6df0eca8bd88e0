import Livery.Proofs.Becoming
import Livery.Proofs.Stops
import Livery.Site

/-!
# Themes and navigation

A navigation is read from its markup : the types of its elements, the headings right below its
groups and the slugs right below its items. A theme dresses the regions of a page before the layout
reads them, and what it puts around the markup, in front of it or in its place can hide a heading
from its group or a slug from its item. `Theme.KeepsNavigation` is what a theme has to leave alone,
and `Theme.Navigable` what a document must not ask for.

`Theme.items_eq` says that such a theme leaves the items of such a document as they are, with the
titles of their groups. It goes by induction on the dressed form : what is synthesized holds no
items (`KeepsNavigation.itemFree_of_becomes`), nor does what is consumed, and headings and slugs
keep their texts (`headings_eq`, `slugs_eq`). So the widgets that read a navigation are the same on
the dressed page (`Widget.resolve_dressed`).
-/

namespace Livery

namespace Navigation

/-! ## What is read from an element -/

/-- The types that are read in a navigation. -/
def readTypes : List String := [groupType, itemType]

/-- An element is a heading. -/
def isHeading (c : Element) : Bool := headingTags.contains c.name

/-- An element holds the slug of an item. -/
def isSlug (c : Element) : Bool := c.name = "span" && c.attr? "property" = some "slug"

/-- The text of a node that is an element with `p`. -/
def textsOf (p : Element → Bool) : Node → List String
  | .element c => if p c then [c.textContent] else []
  | _ => []

theorem head?_flatMap_textsOf (p : Element → Bool) :
    ∀ l : List Node, ((l.filterMap Node.asElement?).find? p).map Element.textContent =
      (l.flatMap (textsOf p)).head?
  | [] => rfl
  | n :: rest => by
    have ih := head?_flatMap_textsOf p rest
    cases n with
    | element c =>
      cases hp : p c with
      | true => simp [Node.asElement?, textsOf, hp]
      | false => simpa [Node.asElement?, textsOf, hp] using ih
    | _ => simpa [Node.asElement?, textsOf] using ih

theorem title_eq (e : Element) :
    title e = ((e.children.flatMap (textsOf isHeading)).head?).getD "" := by
  rw [← head?_flatMap_textsOf]
  rfl

theorem slug?_eq (e : Element) : slug? e = (e.children.flatMap (textsOf isSlug)).head? := by
  rw [← head?_flatMap_textsOf]
  rfl

/-- Two elements have the same type, or types that are not read. -/
def ReadAs (x e : Element) : Prop :=
  x.typeOf? = e.typeOf? ∨
    (∀ s ∈ readTypes, x.typeOf? ≠ some s) ∧ ∀ s ∈ readTypes, e.typeOf? ≠ some s

/-- An element with the same items below it, and with the same headings or slugs if they are read,
has the same items. -/
theorem items_congr {e x : Element} (htype : ReadAs x e)
    (hitems : ∀ group, x.children.flatMap (items group) = e.children.flatMap (items group))
    (htitle : e.typeOf? = some groupType →
      x.children.flatMap (textsOf isHeading) = e.children.flatMap (textsOf isHeading))
    (hslug : e.typeOf? = some itemType →
      x.children.flatMap (textsOf isSlug) = e.children.flatMap (textsOf isSlug)) (group : String) :
    items group (.element x) = items group (.element e) := by
  have hother : ∀ {c : Element}, (∀ s ∈ readTypes, c.typeOf? ≠ some s) →
      items group (.element c) = c.children.flatMap (items group) :=
    fun h => items_other group (h _ (by decide)) (h _ (by decide))
  rcases htype with htype | ⟨hx, he⟩
  · by_cases hgroup : e.typeOf? = some groupType
    · rw [items_group group hgroup, items_group group (htype.trans hgroup), title_eq, title_eq,
        htitle hgroup, hitems]
    by_cases hitem : e.typeOf? = some itemType
    · rw [items_item group hitem, items_item group (htype.trans hitem), slug?_eq, slug?_eq,
        hslug hitem]
    · rw [items_other group hgroup hitem,
        items_other group (htype ▸ hgroup) (htype ▸ hitem), hitems]
  · rw [hother hx, hother he, hitems]

/-- Where no element is an item there are no items. -/
theorem items_eq_nil {n : Node} (h : itemType ∉ n.types) (group : String) :
    items group n = [] := by
  induction n using Node.induct generalizing group with
  | leaf n hn => exact items_leaf group (Node.isElement_of_isBranch hn)
  | array nodes => exact items_leaf group rfl
  | element e ih =>
    have hbelow : ∀ group, e.children.flatMap (items group) = [] := fun group =>
      List.flatMap_eq_nil_iff.mpr fun m hm =>
        ih m hm (fun hmem => h (Node.types_subset_of_mem hm hmem)) group
    have hitem : e.typeOf? ≠ some itemType := fun htype => h (Node.typeOf?_mem_types htype)
    by_cases hgroup : e.typeOf? = some groupType
    · rw [items_group group hgroup, hbelow]
    · rw [items_other group hgroup hitem, hbelow]

theorem items_labelled (r : Rune) (group : String) (n : Node) :
    items group (r.labelled n) = items group n := by
  cases n with
  | element e =>
    rw [r.labelled_element]
    exact items_congr (Or.inl (r.typeOf?_relabelled e)) (by simp) (by simp) (by simp) group
  | _ => rw [r.labelled_of_not_element rfl]

theorem items_wrapped (r : Rune) (group : String) (l : List Node) :
    (r.wrapped l).flatMap (items group) = l.flatMap (items group) := by
  refine r.flatMap_wrapped (fun w l => ?_) l
  have hplain := w.typeOf?_around l
  rw [items_other group (by simp [hplain]) (by simp [hplain]), w.children_around]

theorem textsOf_labelled (r : Rune) {p : Element → Bool} (hp : ∀ e, p (r.relabelled e) = p e)
    (n : Node) : textsOf p (r.labelled n) = textsOf p n := by
  cases n with
  | element e =>
    rw [r.labelled_element, textsOf, textsOf, hp]
    simp only [Element.textContent, Node.textContent, Node.leaves_element, r.children_relabelled]
  | _ => rw [r.labelled_of_not_element rfl]

end Navigation

open Navigation

namespace Theme

/-! ## What themes and documents leave alone -/

/-- A theme leaves the markup of navigations alone. -/
structure KeepsNavigation (t : Theme) : Prop where
  /-- No element is turned into a group or an item, and none of these into something else. -/
  types : ∀ type r s, t.runes.get? type = some r → r.rootAttributes.get? typeofKey = some s →
    s = type ∨ type ∉ readTypes ∧ s ∉ readTypes
  /-- No synthesized element is an item. -/
  entries : ∀ r ∈ t.runes.values, ∀ p ∈ r.scaffold.entries, p.2.Throughout fun e =>
    ∀ source, e.attrs.get? typeofKey = some source → ∃ s, source = .literal s ∧ s ≠ itemType
  /-- Headings stay right below their group, and there are no other ones. -/
  groups : ∀ r, t.runes.get? groupType = some r →
    r.contentWrapper = none ∧ ∀ p ∈ r.scaffold.entries, p.2.tag ∉ headingTags
  /-- Slugs stay right below their item, and there are no other ones. -/
  items : ∀ r, t.runes.get? itemType = some r →
    r.contentWrapper = none ∧ ∀ p ∈ r.scaffold.entries, p.2.tag = "span" →
      (∀ source, p.2.attrs.get? "property" = some source → ∃ s, source = .literal s ∧ s ≠ "slug") ∧
      ∀ type r', p.2.attrs.get? typeofKey = some (.literal type) → t.runes.get? type = some r' →
        r'.rootAttributes.get? "property" = none

/-- An element is read as before once it is dressed. -/
structure Legible (t : Theme) (e : Element) : Prop where
  /-- A `meta` element that comes out with a property, for which it may be consumed, holds no
  items. -/
  consumed : e.name = "meta" → (t.property? e).isSome = true → itemType ∉ (Node.element e).types
  /-- Headings of groups are quiet. -/
  headings : e.typeOf? = some groupType → ∀ c, .element c ∈ e.children → isHeading c = true →
    t.Quiet (.element c)
  /-- Slugs of items are quiet, and come out with their property as the only ones. -/
  slugs : e.typeOf? = some itemType → ∀ c, .element c ∈ e.children → c.name = "span" →
    t.property? c = c.attr? "property" ∧ (isSlug c = true → t.Quiet (.element c))

/-- All elements of a document are read as before once they are dressed. -/
def Navigable (t : Theme) (n : Node) : Prop := ∀ e ∈ n.elements, t.Legible e

variable {t : Theme}

theorem navigable_element_iff {e : Element} :
    t.Navigable (.element e) ↔ t.Legible e ∧ ∀ n ∈ e.children, t.Navigable n := by
  simp only [Navigable, Node.elements_element, List.forall_mem_cons, List.mem_flatMap,
    forall_exists_index, and_imp]
  exact and_congr_right fun _ => ⟨fun h n hn e he => h e n hn he, fun h e n hn he => h n hn e he⟩

theorem Navigable.labelled {n : Node} (h : t.Navigable n) (r : Rune) :
    t.Navigable (r.labelled n) := by
  cases n with
  | element e =>
    obtain ⟨hlegible, hbelow⟩ := navigable_element_iff.mp h
    rw [r.labelled_element, navigable_element_iff, r.children_relabelled]
    refine ⟨⟨?_, ?_, ?_⟩, hbelow⟩
    · rw [r.name_relabelled, property?_relabelled, ← r.labelled_element, r.types_labelled]
      exact hlegible.consumed
    · rw [r.typeOf?_relabelled, r.children_relabelled]
      exact hlegible.headings
    · rw [r.typeOf?_relabelled, r.children_relabelled]
      exact hlegible.slugs
  | _ => rwa [r.labelled_of_not_element rfl]

theorem navigable_wrapped (r : Rune) {l : List Node} (h : ∀ n ∈ l, t.Navigable n) :
    ∀ n ∈ r.wrapped l, t.Navigable n := by
  refine r.forall_wrapped (fun w l h => navigable_element_iff.mpr ⟨⟨fun _ hp => ?_, ?_, ?_⟩, h⟩) h
  · rw [property?_around] at hp
    cases hp
  · simp [w.typeOf?_around l]
  · simp [w.typeOf?_around l]

/-! ## Items that are not there -/

namespace KeepsNavigation

/-- A dressed root is read as the type that the component had. -/
theorem readAs_root (h : t.KeepsNavigation) {e : Element} {type : String} {r : Rune}
    (he : t.runeOf? e = some (type, r)) (within : Option String) (l : List Node) :
    ReadAs ⟨e.name, r.rootAttrs type (t.blockClass r) within e, l⟩ e := by
  have hroot : (⟨e.name, r.rootAttrs type (t.blockClass r) within e, l⟩ : Element).typeOf? =
      (r.rootAttributes.get? typeofKey).or e.typeOf? :=
    r.get?_rootAttrs_of_uncomputed _ _ _ _ (by decide) (by decide) (by decide)
  rw [ReadAs, hroot, typeOf?_of_runeOf? he]
  cases hs : r.rootAttributes.get? typeofKey with
  | none => exact Or.inl rfl
  | some s =>
    rcases h.types type r s (get?_of_runeOf? he) hs with rfl | ⟨htype, hs'⟩
    · exact Or.inl rfl
    · refine Or.inr ⟨fun s' hmem heq => hs' ?_, fun s' hmem heq => htype ?_⟩
      · rw [Option.some_or, Option.some.injEq] at heq
        exact heq ▸ hmem
      · rw [Option.some.injEq] at heq
        exact heq ▸ hmem

theorem itemFree_synthesized (h : t.KeepsNavigation) {e : Element} {type : String} {r : Rune}
    (he : t.runeOf? e = some (type, r)) {before : Bool} {n : Node}
    (hn : n ∈ r.synthesized (r.resolve e) before) : itemType ∉ n.types := by
  obtain ⟨p, hp, x, hx, rfl⟩ := Rune.exists_build_of_mem_synthesized hn
  have hentry := h.entries r (t.runes.mem_values_of_get? (get?_of_runeOf? he)) p hp
  intro htype
  obtain ⟨y, hy, htype⟩ := Node.mem_types_iff.mp htype
  obtain ⟨c, label, hliteral, hattrs⟩ := hentry.of_mem_elements p.2 hx y hy
  rw [Element.typeOf?, Element.attr?, hattrs, c.get?_builtAttrs label (by decide),
    Option.map_eq_some_iff] at htype
  obtain ⟨source, hsource, hvalue⟩ := htype
  obtain ⟨s, rfl, hne⟩ := hliteral source hsource
  exact hne hvalue

/-- A synthesized `span` element of an item is no slug, and comes out with its property. -/
theorem span_synthesized (h : t.KeepsNavigation) {e x : Element} {r : Rune}
    (he : t.runeOf? e = some (itemType, r)) {before : Bool}
    (hx : .element x ∈ r.synthesized (r.resolve e) before) (hspan : x.name = "span") :
    t.property? x = x.attr? "property" ∧ isSlug x = false := by
  have hr := get?_of_runeOf? he
  obtain ⟨p, hp, y, hy, hname, hattrs⟩ := Rune.exists_entry_of_mem_synthesized hx
  obtain rfl := Node.element.inj hy
  obtain ⟨hproperty, htypes⟩ := (h.items r hr).2 p hp (hname.symm.trans hspan)
  obtain ⟨hliteral, -⟩ := h.entries r (t.runes.mem_values_of_get? hr) p hp
  constructor
  · rcases t.runeOf?_cases x with hx | ⟨type, r', hx⟩
    · rw [property?, hx]
      rfl
    have htype := typeOf?_of_runeOf? hx
    rw [Element.typeOf?, hattrs _ (by decide), Option.map_eq_some_iff] at htype
    obtain ⟨source, hsource, hvalue⟩ := htype
    obtain ⟨s, rfl, -⟩ := hliteral source hsource
    obtain rfl : s = type := hvalue
    rw [property?, hx, Option.bind_some, htypes s r' hsource (get?_of_runeOf? hx), Option.none_or]
  · have hne : x.attr? "property" ≠ some "slug" := by
      rw [hattrs _ (by decide), Ne, Option.map_eq_some_iff]
      rintro ⟨source, hsource, hvalue⟩
      obtain ⟨s, rfl, hs⟩ := hproperty source hsource
      exact hs hvalue
    simp [isSlug, hne]

/-- Nothing that holds no items becomes something that does. -/
theorem itemFree_of_becomes (h : t.KeepsNavigation) (ht : t.HookFree) {within : Option String}
    {n out : Node} (hb : t.Becomes within n out) : itemType ∉ n.types → itemType ∉ out.types := by
  have below : ∀ {within : Option String} {l outs : List Node},
      List.Forall₂ (fun n out => t.Becomes within n out ∧
        (itemType ∉ n.types → itemType ∉ out.types)) l outs →
      (∀ m ∈ l, itemType ∉ m.types) → ∀ out ∈ outs, itemType ∉ out.types := by
    intro within l outs ih hl out hout
    obtain ⟨m, hm, -, hfree⟩ := exists_item_of_mem ih hout
    exact hfree (hl m hm)
  refine hb.induct ht ?leaf ?array ?part ?component
  case leaf =>
    intro within n _ hn
    exact hn
  case array =>
    intro within nodes outs ih hn
    rw [Node.not_mem_types_array_iff] at hn ⊢
    exact below ih hn
  case part =>
    intro within e x _ _ hattrs ih hn
    rw [Node.not_mem_types_element_iff] at hn ⊢
    exact ⟨(hattrs typeofKey (by decide)).trans_ne hn.1, below ih hn.2⟩
  case component =>
    intro within e type r walked he ih hn
    rw [Node.not_mem_types_element_iff] at hn ⊢
    constructor
    · rcases h.readAs_root he within (walked.filter fun n => !r.consumes n) with htype | ⟨hx, -⟩
      · exact htype.trans_ne hn.1
      · exact hx itemType (by decide)
    · intro out hout
      refine below ih (fun m hm => ?_) out (List.mem_filter.mp hout).1
      rcases Rune.mem_arranged hm with ⟨before, hm⟩ | hm
      · exact h.itemFree_synthesized he hm
      · intro hmem
        have hcontent : itemType ∈ e.children.flatMap Node.types := by
          have hwrapped := List.mem_flatMap.mpr ⟨m, hm, hmem⟩
          simpa only [r.types_wrapped, List.flatMap_map, r.types_labelled] using hwrapped
        obtain ⟨c, hc, hmem⟩ := List.mem_flatMap.mp hcontent
        exact hn.2 c hc hmem

end KeepsNavigation

/-! ## Headings and slugs -/

/-- An element that is quiet if it has `p`, and that comes out with `p` or without it as it was, has
its text read as before. -/
theorem textsOf_eq (ht : t.HookFree) {p : Element → Bool} {within : Option String} {n out : Node}
    (hb : t.Becomes within n out)
    (hn : ∀ c x, n = .element c → out = .element x → p x = p c ∧ (p c = true → t.Quiet n)) :
    textsOf p out = textsOf p n := by
  cases n with
  | element c =>
    obtain ⟨x, rfl, -, -⟩ := hb.element ht
    obtain ⟨hp, hquiet⟩ := hn c x rfl rfl
    rw [textsOf, textsOf, hp]
    cases hc : p c with
    | true => simp [(hquiet hc).textContent_eq ht hb]
    | false => rfl
  | _ =>
    have hplain := hb.isElement_eq ht
    cases out with
    | element x => cases hplain
    | _ => rfl

/-- Headings that are quiet are read as before. -/
theorem headings_eq (ht : t.HookFree) {within : Option String} {n out : Node}
    (hb : t.Becomes within n out)
    (hn : ∀ c, n = .element c → isHeading c = true → t.Quiet (.element c)) :
    textsOf isHeading out = textsOf isHeading n := by
  refine textsOf_eq ht hb fun c x hc hx => ⟨?_, fun h => hc ▸ hn c hc h⟩
  subst hc
  obtain ⟨x', hx', hname, -⟩ := hb.element ht
  obtain rfl := Node.element.inj (hx.symm.trans hx')
  rw [isHeading, isHeading, hname]

/-- Slugs that are quiet are read as before, if no other `span` element comes out as a slug. -/
theorem slugs_eq (ht : t.HookFree) {within : Option String} {n out : Node}
    (hb : t.Becomes within n out)
    (hn : ∀ c, n = .element c → c.name = "span" →
      t.property? c = c.attr? "property" ∧ (isSlug c = true → t.Quiet (.element c))) :
    textsOf isSlug out = textsOf isSlug n := by
  refine textsOf_eq ht hb fun c x hc hx => ?_
  subst hc
  obtain ⟨x', hx', hname, hproperty⟩ := hb.element ht
  obtain rfl := Node.element.inj (hx.symm.trans hx')
  by_cases hspan : c.name = "span"
  · obtain ⟨hsame, hquiet⟩ := hn c rfl hspan
    exact ⟨by rw [isSlug, isSlug, hname, hproperty, hsame], hquiet⟩
  · have hplain : isSlug c = false := by simp [isSlug, hspan]
    refine ⟨by rw [hplain, isSlug, hname]; simp [hspan], fun h => ?_⟩
    rw [hplain] at h
    cases h

/-! ## Items of dressed documents -/

section Component

variable {e : Element} {type : String} {r : Rune} {walked : List Node}

/-- The texts that are read from the children of a component without a content wrapper. -/
theorem textsOf_component (ht : t.HookFree) {p : Element → Bool}
    (hwrapper : r.contentWrapper = none)
    (hp : ∀ c, p (r.relabelled c) = p c) (hmeta : ∀ m, m.name = "meta" → p m = false)
    (hsynthesized : ∀ x before, .element x ∈ r.synthesized (r.resolve e) before → p x = false)
    (hread : ∀ n ∈ r.arranged e, ∀ out, t.Becomes (some type) n out →
      textsOf p out = textsOf p n)
    (hwalked : List.Forall₂ (t.Becomes (some type)) (r.arranged e) walked) :
    (walked.filter fun n => !r.consumes n).flatMap (textsOf p) =
      e.children.flatMap (textsOf p) := by
  have hsame : List.Forall₂ (fun n out => t.Becomes (some type) n out ∧
      textsOf p out = textsOf p n) (r.arranged e) walked :=
    ((List.forall₂_and_left _ _).mpr ⟨fun n hn => hn, hwalked⟩).imp
      fun n out hn => ⟨hn.2, hread n hn.1 out hn.2⟩
  refine flatMap_component ht hsame (fun m _ hname _ => ?_) ?_ ?_
  · rw [textsOf, hmeta m hname]
    rfl
  · intro before n hn
    obtain ⟨_, _, x, rfl, _⟩ := Rune.exists_entry_of_mem_synthesized hn
    rw [textsOf, hsynthesized x before hn]
    rfl
  · simp only [Rune.wrapped_none hwrapper, List.flatMap_map, textsOf_labelled r hp]

variable (h : t.KeepsNavigation) (ht : t.HookFree) (he : t.runeOf? e = some (type, r))

include h ht he

/-- The items below a component. -/
theorem items_component (hbelow : ∀ n ∈ e.children, t.Navigable n)
    (hread : List.Forall₂ (fun n out => t.Becomes (some type) n out ∧
      (t.Navigable n → ∀ group, items group out = items group n)) (r.arranged e) walked)
    (group : String) :
    (walked.filter fun n => !r.consumes n).flatMap (items group) =
      e.children.flatMap (items group) := by
  have hlabelled : ∀ n ∈ e.children.map r.labelled, t.Navigable n := by
    intro n hn
    obtain ⟨m, hm, rfl⟩ := List.mem_map.mp hn
    exact (hbelow m hm).labelled r
  have hnone : ∀ before, ∀ n ∈ r.synthesized (r.resolve e) before, items group n = [] :=
    fun before n hn => items_eq_nil (h.itemFree_synthesized he hn) group
  have hsame : List.Forall₂ (fun n out => t.Becomes (some type) n out ∧
      items group out = items group n) (r.arranged e) walked := by
    refine ((List.forall₂_and_left _ _).mpr ⟨fun n hn => hn, hread⟩).imp ?_
    rintro n out ⟨hn, hb, hkept⟩
    refine ⟨hb, ?_⟩
    rcases Rune.mem_arranged hn with ⟨before, hn⟩ | hn
    · rw [hnone before n hn,
        items_eq_nil (h.itemFree_of_becomes ht hb (h.itemFree_synthesized he hn))]
    · exact hkept (navigable_wrapped r hlabelled n hn) group
  refine flatMap_component ht hsame (fun m hm hname hproperty => ?_) hnone ?_
  · rcases Rune.mem_arranged hm with ⟨before, hm⟩ | hm
    · exact hnone before _ hm
    · obtain ⟨hlegible, -⟩ := navigable_element_iff.mp (navigable_wrapped r hlabelled _ hm)
      exact items_eq_nil (hlegible.consumed hname hproperty) group
  · simp only [items_wrapped, List.flatMap_map, items_labelled]

variable (hlegible : t.Legible e)
  (hwalked : List.Forall₂ (t.Becomes (some type)) (r.arranged e) walked)

include hlegible hwalked

/-- The headings of a group that is a component. -/
theorem headings_component (hgroup : e.typeOf? = some groupType) :
    (walked.filter fun n => !r.consumes n).flatMap (textsOf isHeading) =
      e.children.flatMap (textsOf isHeading) := by
  obtain rfl := Option.some.inj ((typeOf?_of_runeOf? he).symm.trans hgroup)
  obtain ⟨hwrapper, htags⟩ := h.groups r (get?_of_runeOf? he)
  have hsynthesized : ∀ x before, .element x ∈ r.synthesized (r.resolve e) before →
      isHeading x = false := by
    intro x before hx
    obtain ⟨p, hp, y, hy, hname, -⟩ := Rune.exists_entry_of_mem_synthesized hx
    obtain rfl := Node.element.inj hy
    rw [isHeading, hname, Bool.eq_false_iff, Ne, List.contains_iff_mem]
    exact htags p hp
  refine textsOf_component ht hwrapper (fun c => by rw [isHeading, isHeading, r.name_relabelled])
    (fun m hm => by rw [isHeading, hm]; decide) hsynthesized (fun n hn out hb => ?_) hwalked
  refine headings_eq ht hb fun c hc hheading => ?_
  rcases Rune.mem_arranged hn with ⟨before, hn⟩ | hn
  · rw [hsynthesized c before (hc ▸ hn)] at hheading
    cases hheading
  · rw [Rune.wrapped_none hwrapper] at hn
    obtain ⟨m, hm, rfl⟩ := List.mem_map.mp hn
    obtain ⟨d, rfl, rfl⟩ := r.exists_of_labelled hc
    rw [isHeading, r.name_relabelled] at hheading
    exact hc ▸ (hlegible.headings hgroup d hm hheading).labelled r

/-- The slugs of an item that is a component. -/
theorem slugs_component (hitem : e.typeOf? = some itemType) :
    (walked.filter fun n => !r.consumes n).flatMap (textsOf isSlug) =
      e.children.flatMap (textsOf isSlug) := by
  obtain rfl := Option.some.inj ((typeOf?_of_runeOf? he).symm.trans hitem)
  have hwrapper := (h.items r (get?_of_runeOf? he)).1
  have hslug : ∀ c, isSlug (r.relabelled c) = isSlug c := fun c => by
    rw [isSlug, isSlug, r.name_relabelled, r.attr?_relabelled c (by decide)]
  refine textsOf_component ht hwrapper hslug (fun m hm => by simp [isSlug, hm])
    (fun x before hx => ?_) (fun n hn out hb => ?_) hwalked
  · by_cases hspan : x.name = "span"
    · exact (h.span_synthesized he hx hspan).2
    · simp [isSlug, hspan]
  refine slugs_eq ht hb fun c hc hspan => ?_
  rcases Rune.mem_arranged hn with ⟨before, hn⟩ | hn
  · obtain ⟨hproperty, hplain⟩ := h.span_synthesized he (hc ▸ hn) hspan
    exact ⟨hproperty, fun hc => by simp [hplain] at hc⟩
  · rw [Rune.wrapped_none hwrapper] at hn
    obtain ⟨m, hm, rfl⟩ := List.mem_map.mp hn
    obtain ⟨d, rfl, rfl⟩ := r.exists_of_labelled hc
    rw [r.name_relabelled] at hspan
    obtain ⟨hproperty, hquiet⟩ := hlegible.slugs hitem d hm hspan
    rw [property?_relabelled, r.attr?_relabelled d (by decide), hslug]
    exact ⟨hproperty, fun hd => hc ▸ (hquiet hd).labelled r⟩

end Component

/--
A theme that leaves navigations alone keeps the items of a document that does, and the titles of the
groups around them.
-/
theorem items_eq (h : t.KeepsNavigation) (ht : t.HookFree) {within : Option String} {n out : Node}
    (hb : t.Becomes within n out) :
    t.Navigable n → ∀ group, items group out = items group n := by
  refine hb.induct ht ?leaf ?array ?part ?component
  case leaf =>
    intro within n _ _ group
    rfl
  case array =>
    intro within nodes outs _ _ group
    rw [items_leaf group rfl, items_leaf group rfl]
  case part =>
    intro within e x _ _ hattrs ih hn group
    obtain ⟨hlegible, hbelow⟩ := navigable_element_iff.mp hn
    have hchildren := (List.forall₂_and_left _ _).mpr ⟨fun m hm => hm, ih⟩
    refine items_congr (Or.inl (hattrs typeofKey (by decide))) (fun group => ?_) (fun hgroup => ?_)
      (fun hitem => ?_) group
    · exact flatMap_eq_of_forall₂ (hchildren.imp fun m _ hm => hm.2.2 (hbelow m hm.1) group)
    · exact flatMap_eq_of_forall₂ (hchildren.imp fun m _ hm => headings_eq ht hm.2.1
        fun c hc => hlegible.headings hgroup c (hc ▸ hm.1))
    · exact flatMap_eq_of_forall₂ (hchildren.imp fun m _ hm => slugs_eq ht hm.2.1
        fun c hc => hlegible.slugs hitem c (hc ▸ hm.1))
  case component =>
    intro within e type r walked he ih hn group
    obtain ⟨hlegible, hbelow⟩ := navigable_element_iff.mp hn
    have hwalked := ih.imp fun _ _ hm => hm.1
    exact items_congr (h.readAs_root he within _)
      (items_component h ht he hbelow ih)
      (headings_component h ht he hlegible hwalked) (slugs_component h ht he hlegible hwalked) group

/-- The items of a list of documents. -/
theorem itemsAll_eq (h : t.KeepsNavigation) (ht : t.HookFree) {l outs : List Node}
    (hl : ∀ n ∈ l, t.Navigable n) (houts : l.mapM (t.transform none) = some outs) (group : String) :
    itemsAll group outs = itemsAll group l := by
  rw [Navigation.itemsAll_eq, Navigation.itemsAll_eq]
  refine flatMap_eq_of_forall₂ (((List.forall₂_and_left _ _).mpr
    ⟨hl, (mapM_eq_some_iff _ _ _).mp houts⟩).imp ?_)
  rintro n out ⟨hn, hout⟩
  exact items_eq h ht (transform_eq_some_iff.mp hout).becomes hn group

end Theme

/-! ## Widgets on dressed pages -/

namespace Page

variable {t : Theme} {page page' : Page}

/-- A page is dressed if the walk of every node of its regions ends, and it has no other content. -/
theorem isSome_dressed (hplain : page.renderable = none)
    (h : ∀ p ∈ page.regions.entries, (p.2.content.mapM (t.transform none)).isSome = true) :
    (page.dressed t).isSome = true := by
  obtain ⟨regions, hregions⟩ := Option.isSome_iff_exists.mp (Dict.isSome_traverse
    (f := fun r => (r.content.mapM (t.transform none)).map fun content => { r with content })
    (d := page.regions) fun p hp => by rw [Option.isSome_map]; exact h p hp)
  simp [Page.dressed, hplain, hregions]

/-- A dressed page has the regions of the page, with their content dressed, and the rest of the page
as it is. -/
theorem exists_of_dressed (h : page.dressed t = some page') :
    ∃ renderable regions, page' = { page with renderable := renderable, regions := regions } ∧
      ∀ key, (regions.get? key).map some = (page.regions.get? key).map fun r =>
        (r.content.mapM (t.transform none)).map fun content => { r with content } := by
  obtain ⟨renderable, -, h⟩ := Option.bind_eq_some_iff.mp h
  obtain ⟨regions, hregions, h⟩ := Option.bind_eq_some_iff.mp h
  exact ⟨renderable, regions, (Option.some.inj h).symm, Dict.get?_traverse hregions⟩

end Page

namespace Widget

variable {t : Theme} {page page' : Page}

/-- A breadcrumb reads the items of the navigation and nothing else of it. -/
theorem breadcrumb_congr {nav nav' : List Node} (h : itemsAll "" nav' = itemsAll "" nav)
    (url title pre : String) : breadcrumb nav' url title pre = breadcrumb nav url title pre := by
  rw [breadcrumb, breadcrumb, category?, category?, h]

/-- Links to neighbours read the items of the navigation and nothing else of it. -/
theorem prevNext_congr {nav nav' : List Node} (h : itemsAll "" nav' = itemsAll "" nav)
    (url : String) (pages : List PageEntry) (pre : String) :
    prevNext nav' url pages pre = prevNext nav url pages pre := by
  rw [prevNext, prevNext, neighbours?, neighbours?, slugs, slugs, h]

/-- The region of a widget is dressed with the page. -/
theorem region?_of_dressed (h : page.dressed t = some page') (w : Widget) :
    (w.region? page').map some = (w.region? page).map fun r =>
      (r.content.mapM (t.transform none)).map fun content => { r with content } := by
  obtain ⟨renderable, regions, rfl, hregions⟩ := Page.exists_of_dressed h
  exact hregions _

/-- The region of a widget has the same items on a dressed page. -/
theorem region?_dressed (ht : t.HookFree) (hkeeps : t.KeepsNavigation)
    (h : page.dressed t = some page') {w : Widget}
    (hregion : ∀ region, w.region? page = some region → ∀ n ∈ region.content, t.Navigable n) :
    (w.region? page' = none ∧ w.region? page = none) ∨
      ∃ r r', w.region? page' = some r' ∧ w.region? page = some r ∧
        itemsAll "" r'.content = itemsAll "" r.content := by
  have hdressed := region?_of_dressed h w
  cases hr : w.region? page with
  | none =>
    rw [hr, Option.map_none, Option.map_eq_none_iff] at hdressed
    exact Or.inl ⟨hdressed, rfl⟩
  | some r =>
    rw [hr, Option.map_some, Option.map_eq_some_iff] at hdressed
    obtain ⟨r', hr', hmade⟩ := hdressed
    obtain ⟨content, hcontent, rfl⟩ := Option.map_eq_some_iff.mp hmade.symm
    exact Or.inr ⟨r, _, hr', rfl, Theme.itemsAll_eq hkeeps ht (hregion r hr) hcontent ""⟩

/--
Themes leave the widgets that read a navigation alone : if a theme without hooks keeps navigations,
and the region of a breadcrumb or of links to neighbours is navigable, then the widget is the same
on the dressed page as on the page.
-/
theorem resolve_dressed (ht : t.HookFree) (hkeeps : t.KeepsNavigation)
    (h : page.dressed t = some page') {w : Widget}
    (hkind : w.kind = .breadcrumb ∨ w.kind = .prevNext)
    (hregion : ∀ region, w.region? page = some region → ∀ n ∈ region.content, t.Navigable n)
    (pre : String) : w.resolve page' pre = w.resolve page pre := by
  have hregions := region?_dressed ht hkeeps h hregion
  obtain ⟨renderable, regions, rfl, -⟩ := Page.exists_of_dressed h
  have hhidden : w.isHidden { page with renderable := renderable, regions := regions } =
      w.isHidden page := rfl
  rw [resolve, resolve, hhidden]
  rcases hregions with ⟨hr', hr⟩ | ⟨r, r', hr', hr, hitems⟩
  · rcases hkind with hkind | hkind <;> simp only [hkind, hr, hr', Option.bind_none]
  · rcases hkind with hkind | hkind
    · simp only [hkind, hr, hr', Option.bind_some, breadcrumb_congr hitems]
    · simp only [hkind, hr, hr', Option.bind_some, prevNext_congr hitems]

end Widget

/-! ## Themes for navigations -/

/-- A theme without structure entries that sets no property leaves the markup of every document
without `meta` elements alone. -/
theorem Theme.navigable_of_metaFree {t : Theme} (hfree : t.ScaffoldFree)
    (hroots : ∀ r ∈ t.runes.values, r.rootAttributes.get? "property" = none) {n : Node} :
    (∀ e ∈ n.elements, e.name ≠ "meta") → t.Navigable n := by
  have hquiet : ∀ {n : Node}, (∀ e ∈ n.elements, e.name ≠ "meta") → t.Quiet n := fun hn =>
    ⟨fun e he hname => absurd hname (hn e he),
      fun _ _ r hr => hfree r (t.runes.mem_values_of_get? hr)⟩
  induction n using Node.induct with
  | leaf n hn => simp [Navigable, Node.elements_leaf hn]
  | array nodes ih =>
    intro hn e he
    rw [Node.elements_array, List.mem_flatMap] at he
    obtain ⟨m, hm, he⟩ := he
    refine ih m hm (fun d hd => hn d ?_) e he
    rw [Node.elements_array]
    exact List.mem_flatMap.mpr ⟨m, hm, hd⟩
  | element e ih =>
    intro hn
    have hbelow : ∀ m ∈ e.children, ∀ d ∈ m.elements, d.name ≠ "meta" := fun m hm d hd =>
      hn d (Node.mem_elements_iff.mpr (Or.inr ⟨m, hm, hd⟩))
    refine navigable_element_iff.mpr ⟨⟨?_, ?_, ?_⟩, fun m hm => ih m hm (hbelow m hm)⟩
    · exact fun hname => absurd hname (hn e (Node.mem_elements_iff.mpr (Or.inl rfl)))
    · exact fun _ c hc _ => hquiet (hbelow _ hc)
    · refine fun _ c hc _ => ⟨?_, fun _ => hquiet (hbelow _ hc)⟩
      rcases t.runeOf?_cases c with hplain | ⟨type, r, hr⟩
      · rw [property?, hplain]
        rfl
      · rw [property?, hr, Option.bind_some,
          hroots r (t.runes.mem_values_of_get? (get?_of_runeOf? hr)), Option.none_or]

/-- A theme for groups and items. -/
def navTheme : Theme where
  classPrefix := "rf"
  runes := .ofList
    [("NavGroup", { block := "nav-group" }),
     ("NavItem", { block := "nav-item", autoLabel := .ofList [("span", "slug")] })]

/-- `navTheme` with a content wrapper for items. -/
def wrappedNavTheme : Theme where
  classPrefix := "rf"
  runes := .ofList
    [("NavGroup", { block := "nav-group" }),
     ("NavItem", { block := "nav-item", contentWrapper := some ⟨"div", "body"⟩ })]

/-- A page with `basicsNav` as its navigation. -/
def introPage : Page where
  title := "Intro"
  url := "/docs/intro"
  regions := .ofList [("nav", { name := "nav", mode := "replace", content := basicsNav })]

/-- The breadcrumb of the navigation. -/
def navCrumb : Widget := { kind := .breadcrumb, source := "nav" }

/-- The types of `navTheme` bring in no elements and set no attributes of their own. -/
theorem plain_of_navTheme {r : Rune} (hr : r ∈ navTheme.runes.values) :
    r.hook = none ∧ r.contentWrapper = none ∧ r.scaffold.entries = [] ∧ r.rootAttributes = ∅ := by
  rcases List.mem_cons.mp hr with rfl | hr
  · exact ⟨rfl, rfl, rfl, rfl⟩
  · rw [List.mem_singleton.mp hr]
    exact ⟨rfl, rfl, rfl, rfl⟩

theorem keepsNavigation_navTheme : navTheme.KeepsNavigation := by
  refine ⟨fun type r s hr hs => ?_, fun r hr p hp => ?_, fun r hr => ?_, fun r hr => ?_⟩
  · obtain ⟨-, -, -, hroot⟩ := plain_of_navTheme (navTheme.runes.mem_values_of_get? hr)
    rw [hroot] at hs
    cases hs
  · obtain ⟨-, -, hnone, -⟩ := plain_of_navTheme hr
    rw [hnone] at hp
    cases hp
  · obtain ⟨-, hwrapper, hnone, -⟩ := plain_of_navTheme (navTheme.runes.mem_values_of_get? hr)
    simp [hwrapper, hnone]
  · obtain ⟨-, hwrapper, hnone, -⟩ := plain_of_navTheme (navTheme.runes.mem_values_of_get? hr)
    simp [hwrapper, hnone]

/-- The breadcrumb of a page stays as it is under a theme for groups and items. -/
theorem resolve_dressed_intro :
    navTheme.HookFree ∧ navTheme.KeepsNavigation ∧
    (∀ region, navCrumb.region? introPage = some region →
      ∀ n ∈ region.content, navTheme.Navigable n) ∧
    ∃ page, introPage.dressed navTheme = some page ∧
      navCrumb.resolve page "rf" = navCrumb.resolve introPage "rf" ∧
      (navCrumb.resolve page "rf").bind (Widget.shownCategory? "rf") = some "Basics" := by
  have hfree : navTheme.HookFree := fun r hr => (plain_of_navTheme hr).1
  have hregion : ∀ region, navCrumb.region? introPage = some region →
      ∀ n ∈ region.content, navTheme.Navigable n := by
    intro region hr n hn
    have hnav : (navCrumb.region? introPage).map Region.content = some basicsNav := by cbv
    rw [hr, Option.map_some, Option.some.injEq] at hnav
    rw [hnav] at hn
    refine Theme.navigable_of_metaFree ?_ ?_ fun e he hname => ?_
    · exact fun r hr => (plain_of_navTheme hr).2.2.1
    · intro r hr
      rw [(plain_of_navTheme hr).2.2.2]
      rfl
    · have hnames : (Node.elementsAll basicsNav).map Element.name =
          ["section", "h2", "li", "span", "li", "span"] := by cbv
      have hmem : e.name ∈ (Node.elementsAll basicsNav).map Element.name := by
        rw [Node.elementsAll_eq]
        exact List.mem_map_of_mem (List.mem_flatMap.mpr ⟨n, hn, he⟩)
      simp [hnames, hname] at hmem
  have hdressed : (introPage.dressed navTheme).isSome = true := by
    refine Page.isSome_dressed rfl fun p hp => ?_
    rw [List.mem_singleton.mp hp, isSome_mapM, List.all_eq_true]
    intro n hn
    rw [List.mem_singleton.mp hn]
    have hwalk : (navTheme.walk 8 none
        (navGroup "Basics" [navItem "intro", navItem "install"])).isSome = true := by cbv
    obtain ⟨out, hout⟩ := Option.isSome_iff_exists.mp hwalk
    rw [Theme.transform_eq_some_iff.mpr ⟨8, hout⟩]
    rfl
  obtain ⟨page, hpage⟩ := Option.isSome_iff_exists.mp hdressed
  have hsame :=
    Widget.resolve_dressed hfree keepsNavigation_navTheme hpage (Or.inl rfl) hregion "rf"
  refine ⟨hfree, keepsNavigation_navTheme, hregion, page, hpage, hsame, ?_⟩
  rw [hsame]
  cbv

/-- A content wrapper takes the slugs out of their items, and the breadcrumb with them. -/
theorem breadcrumb_lost_in_wrapper :
    wrappedNavTheme.HookFree ∧
    ∃ page, introPage.dressed wrappedNavTheme = some page ∧
      (navCrumb.resolve introPage "rf").bind (Widget.shownCategory? "rf") = some "Basics" ∧
      navCrumb.resolve page "rf" = none := by
  have hfree : wrappedNavTheme.HookFree := by
    intro r hr
    rcases List.mem_cons.mp hr with rfl | hr
    · rfl
    · rw [List.mem_singleton.mp hr]
  have hwalk : (wrappedNavTheme.walk 8 none
      (navGroup "Basics" [navItem "intro", navItem "install"])).map (items "") = some [] := by cbv
  obtain ⟨out, hout, hitems⟩ := Option.map_eq_some_iff.mp hwalk
  have hcontent : basicsNav.mapM (wrappedNavTheme.transform none) = some [out] :=
    (mapM_eq_some_iff _ _ _).mpr (.cons (Theme.transform_eq_some_iff.mpr ⟨8, hout⟩) .nil)
  have hdressed : (introPage.dressed wrappedNavTheme).isSome = true := by
    refine Page.isSome_dressed rfl fun p hp => ?_
    rw [List.mem_singleton.mp hp, hcontent]
    rfl
  obtain ⟨page, hpage⟩ := Option.isSome_iff_exists.mp hdressed
  refine ⟨hfree, page, hpage, by cbv, ?_⟩
  have hregion := Widget.region?_of_dressed hpage navCrumb
  have hnav : ∃ r, navCrumb.region? introPage = some r ∧ r.content = basicsNav :=
    ⟨_, by cbv, by cbv⟩
  obtain ⟨r, hr, hr'⟩ := hnav
  rw [hr, Option.map_some, hr', hcontent, Option.map_some, Option.map_eq_some_iff] at hregion
  obtain ⟨r', hread, hmade⟩ := hregion
  obtain rfl := Option.some.inj hmade
  have hresolve : navCrumb.resolve page "rf" = (navCrumb.region? page).bind fun r =>
      Widget.breadcrumb r.content page.url page.title "rf" := rfl
  rw [hresolve, hread, Option.bind_some, Widget.breadcrumb, category?]
  simp [itemsAll, hitems]

end Livery
