import Livery.Proofs.Depth

/-!
# The texts in a document

Dressing makes up few texts. The attributes of the elements that a walk meets, and with them the
values of all modifiers, are texts of the document or texts that the theme holds : defaults of
modifiers, labels of children, and the labels and literals of its entries. `Node.Draws` says so of a
document and is passed on : to the nearest components (`Theme.draws_of_mem_nearest`), to labelled
children (`Rune.draws_labelled`) and to synthesized elements (`Rune.draws_synthesized`).

The weight of an entry is more than the number of its texts and the depth of what it builds.
-/

namespace Livery

open Text (nonEmpty?)

theorem total_eq_sum (l : List ℕ) : total l = l.sum := rfl

/-! ## Attributes from given texts -/

/-- Whether all attributes of an element are empty or among some texts. -/
def Element.Draws (texts : List String) (e : Element) : Prop :=
  ∀ key value, e.attr? key = some value → value = "" ∨ value ∈ texts

/-- Whether all elements of a document have their attributes from some texts. -/
def Node.Draws (texts : List String) (n : Node) : Prop := ∀ e ∈ n.elements, e.Draws texts

namespace Node

theorem elementsAll_eq : ∀ l : List Node, elementsAll l = l.flatMap elements
  | [] => rfl
  | n :: rest => congrArg (n.elements ++ ·) (elementsAll_eq rest)

theorem elements_array (nodes : List Node) : (array nodes).elements = nodes.flatMap elements :=
  elementsAll_eq nodes

theorem elements_element (e : Element) :
    (element e).elements = e :: e.children.flatMap elements := by
  obtain ⟨name, attrs, children⟩ := e
  exact congrArg (_ :: ·) (elementsAll_eq children)

theorem elements_leaf {n : Node} (h : n.isBranch = false) : n.elements = [] := by
  cases n <;> first | rfl | cases h

theorem mem_elements_iff {n : Node} {e : Element} :
    e ∈ n.elements ↔ n = .element e ∨ ∃ m ∈ n.contents, e ∈ m.elements := by
  cases n with
  | array nodes => simp [elements_array, contents]
  | element x => simp [elements_element, contents, eq_comm]
  | _ => exact iff_of_false List.not_mem_nil (by simp [contents])

theorem draws_element_iff {texts : List String} {e : Element} :
    (Node.element e).Draws texts ↔ e.Draws texts ∧ ∀ m ∈ e.children, m.Draws texts := by
  constructor
  · intro h
    refine ⟨h e (mem_elements_iff.mpr (Or.inl rfl)), fun m hm x hx => ?_⟩
    exact h x (mem_elements_iff.mpr (Or.inr ⟨m, hm, hx⟩))
  · rintro ⟨he, hchildren⟩ x hx
    rcases mem_elements_iff.mp hx with hx | ⟨m, hm, hx⟩
    · cases hx
      exact he
    · exact hchildren m hm x hx

/-- The texts of the attributes in a document. -/
def attrTexts (n : Node) : List String := n.elements.flatMap fun e => e.attrs.values

theorem draws_of_subset {texts : List String} {n : Node} (h : n.attrTexts ⊆ texts) :
    n.Draws texts := by
  intro e he key value hvalue
  exact Or.inr (h (List.mem_flatMap.mpr ⟨e, he, e.attrs.mem_values_of_get? hvalue⟩))

theorem length_attrTexts_le (n : Node) :
    n.attrTexts.length ≤ total (n.elements.map fun e => e.attrs.size + 1) := by
  rw [attrTexts, List.length_flatMap, total_eq_sum]
  refine List.sum_le_sum fun e _ => ?_
  rw [Dict.values, List.length_map, Dict.size]
  exact Nat.le_succ _

end Node

/-- The components nearest below a node are elements of it. -/
theorem Theme.draws_of_mem_nearest {t : Theme} {texts : List String} {n : Node} {b : Element}
    (h : n.Draws texts) (hb : b ∈ t.nearest n) : (Node.element b).Draws texts := by
  refine nearest_induct (motive := fun n => n.Draws texts → (Node.element b).Draws texts) ?here
    ?below hb h
  case here => exact fun _ hn => hn
  case below =>
    intro n m _ hm ih hn
    exact ih fun x hx => hn x (Node.mem_elements_iff.mpr (Or.inr ⟨m, hm, hx⟩))

/-! ## Built elements -/

namespace StructureEntry

/-- Induction on entries : an entry is reached from the entries among its children. -/
theorem induct {motive : StructureEntry → Prop}
    (h : ∀ e : StructureEntry, (∀ c, .entry c ∈ e.children → motive c) → motive e)
    (e : StructureEntry) : motive e := by
  refine @StructureEntry.rec motive (fun c => ∀ x, c = .entry x → motive x)
    (fun l => ∀ c, .entry c ∈ l → motive c) ?_ ?_ ?_ ?_ ?_ e
  · intro tag label before condition conditionAny icon metaText transform textPrefix textSuffix
      attrs children ih
    exact h _ ih
  · rintro s x hx
    cases hx
  · rintro x hx y hy
    cases hy
    exact hx
  · intro c hc
    simp at hc
  · intro c rest hc hrest x hx
    rcases List.mem_cons.mp hx with hx | hx
    · exact hc x hx.symm
    · exact hrest x hx

theorem weight_eq (e : StructureEntry) : e.weight = e.attrs.size + 2 + childWeight e.children := by
  cases e
  rfl

theorem childWeight_text (s : String) (rest : List StructureChild) :
    childWeight (.text s :: rest) = childWeight rest + 1 := rfl

theorem childWeight_entry (e : StructureEntry) (rest : List StructureChild) :
    childWeight (.entry e :: rest) = e.weight + childWeight rest := rfl

theorem weight_le_childWeight {c : StructureEntry} :
    ∀ {l : List StructureChild}, .entry c ∈ l → c.weight ≤ childWeight l
  | [], h => by simp at h
  | .text s :: rest, h => by
    rw [childWeight_text]
    exact Nat.le_succ_of_le (weight_le_childWeight (by simpa using h))
  | .entry x :: rest, h => by
    rw [childWeight_entry]
    rcases List.mem_cons.mp h with hx | hrest
    · cases hx
      exact Nat.le_add_right _ _
    · exact Nat.le_add_left_of_le (weight_le_childWeight hrest)

theorem buildAll_text (modifiers : Dict String) (s : String) (rest : List StructureChild) :
    buildAll modifiers (.text s :: rest) = .text s :: buildAll modifiers rest := rfl

theorem buildAll_entry (modifiers : Dict String) (e : StructureEntry)
    (rest : List StructureChild) : buildAll modifiers (.entry e :: rest) =
      ((e.build modifiers (e.label.getD "")).map .element).toList ++ buildAll modifiers rest := rfl

/-- What a list of children builds. -/
theorem mem_buildAll {modifiers : Dict String} {m : Node} :
    ∀ {l : List StructureChild}, m ∈ buildAll modifiers l →
      (∃ s, m = .text s) ∨ ∃ c x, .entry c ∈ l ∧
        c.build modifiers (c.label.getD "") = some x ∧ m = .element x
  | [], h => (List.not_mem_nil h).elim
  | .text s :: rest, h => by
    rw [buildAll_text] at h
    rcases List.mem_cons.mp h with rfl | h
    · exact Or.inl ⟨s, rfl⟩
    · rcases mem_buildAll h with hs | ⟨c, x, hc, hx⟩
      · exact Or.inl hs
      · exact Or.inr ⟨c, x, List.mem_cons_of_mem _ hc, hx⟩
  | .entry e :: rest, h => by
    rw [buildAll_entry, List.mem_append, Option.mem_toList, Option.map_eq_some_iff] at h
    rcases h with ⟨x, hx, rfl⟩ | h
    · exact Or.inr ⟨e, x, List.mem_cons_self, hx, rfl⟩
    · rcases mem_buildAll h with hs | ⟨c, x, hc, hx⟩
      · exact Or.inl hs
      · exact Or.inr ⟨c, x, List.mem_cons_of_mem _ hc, hx⟩

/-- A built element has the attributes of its entry, and its children are texts and the elements
that nested entries build. -/
theorem build_cases {modifiers : Dict String} {e : StructureEntry} {name : String} {x : Element}
    (h : e.build modifiers name = some x) :
    x.attrs = e.builtAttrs modifiers name ∧
      ∀ m ∈ x.children, (∃ s, m = .text s) ∨ ∃ c y, .entry c ∈ e.children ∧
        c.build modifiers (c.label.getD "") = some y ∧ m = .element y := by
  cases e
  unfold build at h
  split at h
  · cases h
    refine ⟨rfl, fun m hm => ?_⟩
    dsimp only at hm
    split at hm
    · simp at hm
    · exact Or.inl ⟨_, List.mem_singleton.mp hm⟩
    · exact mem_buildAll hm
  · simp at h

theorem name_build {modifiers : Dict String} {e : StructureEntry} {name : String} {x : Element}
    (h : e.build modifiers name = some x) : x.name = e.tag := by
  cases e
  unfold build at h
  split at h
  · cases h
    rfl
  · simp at h

/-- A built element is not deeper than its entry is heavy. -/
theorem depth_build_le {modifiers : Dict String} (e : StructureEntry) :
    ∀ {name : String} {x : Element}, e.build modifiers name = some x →
      (Node.element x).depth ≤ e.weight := by
  induction e using induct with
  | h e ih =>
    intro name x h
    have hlevel : e.weight = e.attrs.size + 1 + childWeight e.children + 1 := by
      rw [weight_eq]
      omega
    rw [hlevel, Node.depth_le_succ_iff]
    intro m hm
    rcases (build_cases h).2 m hm with ⟨s, rfl⟩ | ⟨c, y, hc, hy, rfl⟩
    · rw [Node.depth_leaf rfl]
      omega
    · have hy := ih c hc hy
      have hc := weight_le_childWeight hc
      omega

/-! ## The texts of entries -/

end StructureEntry

/-- The text of an attribute that is given as it is. -/
def AttrSource.literal? : AttrSource → Option String
  | .literal s => some s
  | .fromModifier _ => none

namespace StructureEntry

mutual

/-- The texts that the attributes of an entry declared under `name` can have, besides the values of
modifiers : labels and literals, those of nested entries included. -/
def texts : StructureEntry → String → List String
  | ⟨_, label, _, _, _, _, _, _, _, _, attrs, children⟩, name =>
    label.getD name :: (attrs.values.filterMap AttrSource.literal? ++ childTexts children)

/-- The texts of the entries among some children. -/
def childTexts : List StructureChild → List String
  | [] => []
  | .text _ :: rest => childTexts rest
  | .entry e :: rest => texts e (e.label.getD "") ++ childTexts rest

end

theorem texts_eq (e : StructureEntry) (name : String) :
    e.texts name = e.label.getD name ::
      (e.attrs.values.filterMap AttrSource.literal? ++ childTexts e.children) := by
  cases e
  rfl

theorem childTexts_text (s : String) (rest : List StructureChild) :
    childTexts (.text s :: rest) = childTexts rest := rfl

theorem childTexts_entry (e : StructureEntry) (rest : List StructureChild) :
    childTexts (.entry e :: rest) = e.texts (e.label.getD "") ++ childTexts rest := rfl

theorem texts_subset_childTexts {c : StructureEntry} :
    ∀ {l : List StructureChild}, .entry c ∈ l → c.texts (c.label.getD "") ⊆ childTexts l
  | [], h => by simp at h
  | .text s :: rest, h => by
    rw [childTexts_text]
    exact texts_subset_childTexts (by simpa using h)
  | .entry x :: rest, h => by
    rw [childTexts_entry]
    rcases List.mem_cons.mp h with hx | hrest
    · cases hx
      exact List.subset_append_left _ _
    · exact List.subset_append_of_subset_right _ (texts_subset_childTexts hrest)

theorem length_childTexts_le : ∀ {l : List StructureChild},
    (∀ c, .entry c ∈ l → (c.texts (c.label.getD "")).length ≤ c.weight) →
    (childTexts l).length ≤ childWeight l
  | [], _ => Nat.le_refl 0
  | .text s :: rest, h => by
    rw [childTexts_text, childWeight_text]
    exact Nat.le_succ_of_le (length_childTexts_le fun c hc => h c (List.mem_cons_of_mem _ hc))
  | .entry x :: rest, h => by
    rw [childTexts_entry, childWeight_entry, List.length_append]
    exact Nat.add_le_add (h x List.mem_cons_self)
      (length_childTexts_le fun c hc => h c (List.mem_cons_of_mem _ hc))

/-- An entry holds no more texts than it is heavy. -/
theorem length_texts_le (e : StructureEntry) : ∀ name, (e.texts name).length ≤ e.weight := by
  induction e using induct with
  | h e ih =>
    intro name
    have hattrs : (e.attrs.values.filterMap AttrSource.literal?).length ≤ e.attrs.size := by
      refine (List.length_filterMap_le _ _).trans ?_
      rw [Dict.values, List.length_map, Dict.size]
    have hchildren := length_childTexts_le fun c hc => ih c hc (c.label.getD "")
    rw [texts_eq, weight_eq, List.length_cons, List.length_append]
    omega

/-- An attribute of a built element is empty, a text of its entry, or the value of a modifier. -/
theorem cases_of_get?_builtAttrs {modifiers : Dict String} {e : StructureEntry} {name key : String}
    {value : String} (h : (e.builtAttrs modifiers name).get? key = some value) :
    value = "" ∨ value ∈ e.texts name ∨ ∃ m, modifiers.get? m = some value := by
  rw [texts_eq]
  rcases Dict.mem_of_get?_extend h with hset | hlabel
  · obtain ⟨⟨k, source⟩, hp, heq⟩ := List.mem_map.mp hset
    cases heq
    cases source with
    | literal s =>
      have hs : s ∈ e.attrs.values.filterMap AttrSource.literal? :=
        List.mem_filterMap.mpr ⟨.literal s, List.mem_map.mpr ⟨_, hp, rfl⟩, rfl⟩
      exact Or.inr (Or.inl (List.mem_cons_of_mem _ (List.mem_append_left _ hs)))
    | fromModifier m =>
      cases hm : modifiers.get? m with
      | none => exact Or.inl (by simp [attrValue, hm])
      | some v => exact Or.inr (Or.inr ⟨m, by simp [attrValue, hm]⟩)
  · rw [Dict.get?_insert] at hlabel
    split at hlabel
    · cases hlabel
      exact Or.inr (Or.inl List.mem_cons_self)
    · cases hlabel

/-- A built element has its attributes from the texts of its entry and from modifier values. -/
theorem draws_build {modifiers : Dict String} {given : List String}
    (hgiven : ∀ key value, modifiers.get? key = some value → value ∈ given) (e : StructureEntry) :
    ∀ {name : String} {x : Element}, e.texts name ⊆ given → e.build modifiers name = some x →
      (Node.element x).Draws given := by
  induction e using induct with
  | h e ih =>
    intro name x htexts h
    obtain ⟨hattrs, hchildren⟩ := build_cases h
    refine Node.draws_element_iff.mpr ⟨?_, ?_⟩
    · intro key value hvalue
      rw [Element.attr?, hattrs] at hvalue
      rcases cases_of_get?_builtAttrs hvalue with rfl | hv | ⟨m, hm⟩
      · exact Or.inl rfl
      · exact Or.inr (htexts hv)
      · exact Or.inr (hgiven m value hm)
    · intro m hm
      rcases hchildren m hm with ⟨s, rfl⟩ | ⟨c, y, hc, hy, rfl⟩
      · exact fun y hy => (List.not_mem_nil hy).elim
      · refine ih c hc (fun v hv => htexts ?_) hy
        rw [texts_eq]
        exact List.mem_cons_of_mem _ (List.mem_append_right _ (texts_subset_childTexts hc hv))

end StructureEntry

/-! ## The texts of runes -/

namespace Rune

/-- The texts that a rune can bring into a document : defaults of modifiers, labels of children, and
the texts of its entries. -/
def texts (r : Rune) : List String :=
  r.modifiers.values.filterMap ModifierSpec.default ++ r.autoLabel.values ++
    r.scaffold.entries.flatMap fun p => p.2.texts p.1

theorem default_mem_texts {r : Rune} {p : String × ModifierSpec} (hp : p ∈ r.modifiers.entries)
    {v : String} (h : p.2.default = some v) : v ∈ r.texts := by
  refine List.mem_append_left _ (List.mem_append_left _ ?_)
  exact List.mem_filterMap.mpr ⟨p.2, List.mem_map.mpr ⟨p, hp, rfl⟩, h⟩

theorem label_mem_texts {r : Rune} {key v : String} (h : r.autoLabel.get? key = some v) :
    v ∈ r.texts :=
  List.mem_append_left _ (List.mem_append_right _ (r.autoLabel.mem_values_of_get? h))

theorem entry_texts_subset {r : Rune} {p : String × StructureEntry} (hp : p ∈ r.scaffold.entries) :
    p.2.texts p.1 ⊆ r.texts := by
  intro v hv
  exact List.mem_append_right _ (List.mem_flatMap.mpr ⟨p, hp, hv⟩)

variable {given : List String} {r : Rune}

/-- A label that a child gets is one of those that the rune has for children. -/
theorem exists_of_newLabel? {e : Element} {label : String} (h : r.newLabel? e = some label) :
    label ≠ "" ∧ ∃ key, r.autoLabel.get? key = some label := by
  unfold newLabel? at h
  split at h
  · cases h
  · obtain ⟨h, hne⟩ := Option.filter_eq_some_iff.mp h
    refine ⟨of_decide_eq_true hne, ?_⟩
    rcases Option.or_eq_some_iff.mp h with hname | ⟨-, hproperty⟩
    · exact ⟨_, hname⟩
    · obtain ⟨property, -, hlabel⟩ := Option.bind_eq_some_iff.mp hproperty
      exact ⟨property, hlabel⟩

/-- A new label is one of the texts of the rune. -/
theorem mem_texts_of_newLabel? {e : Element} {label : String} (h : r.newLabel? e = some label) :
    label ∈ r.texts := by
  obtain ⟨-, key, hkey⟩ := exists_of_newLabel? h
  exact label_mem_texts hkey

/-- Labels bring in texts of the rune alone. -/
theorem draws_labelled (hr : r.texts ⊆ given) {n : Node} (h : n.Draws given) :
    (r.labelled n).Draws given := by
  cases n with
  | element e =>
    rw [r.labelled_element]
    obtain ⟨he, hchildren⟩ := Node.draws_element_iff.mp h
    refine Node.draws_element_iff.mpr ⟨?_, by rwa [r.children_relabelled]⟩
    intro key value hvalue
    unfold relabelled at hvalue
    split at hvalue
    · rename_i label hlabel
      rw [Element.attr?, Element.withAttr, Dict.get?_insert] at hvalue
      split at hvalue
      · cases hvalue
        exact Or.inr (hr (mem_texts_of_newLabel? hlabel))
      · exact he key value hvalue
    · exact he key value hvalue
  | _ => rwa [r.labelled_of_not_element rfl]

/-- The value of a modifier is its default, or comes from an attribute. -/
theorem mem_of_modifierValue? {e : Element} (he : (Node.element e).Draws given) {name v : String}
    {m : ModifierSpec} (hm : ∀ v, m.default = some v → v ∈ given)
    (h : modifierValue? e name m = some v) : v ∈ given := by
  obtain ⟨hv, hne⟩ := Option.filter_eq_some_iff.mp h
  obtain ⟨hown, hchildren⟩ := Node.draws_element_iff.mp he
  -- an attribute that is not empty is among the texts
  have hdraws {x : Element} (hx : x.Draws given) {key : String} (hxv : x.attr? key = some v) :
      v ∈ given := by
    rcases hx key v hxv with rfl | hmem
    · simp at hne
    · exact hmem
  rcases Option.or_eq_some_iff.mp hv with hfound | ⟨-, hdefault⟩
  · split at hfound
    · obtain ⟨c, hc, hcontent⟩ := Option.bind_eq_some_iff.mp hfound
      obtain ⟨n, hn, hnc⟩ := List.mem_filterMap.mp (List.mem_of_find?_eq_some hc)
      cases n with
      | element x =>
        cases hnc
        exact hdraws (Node.draws_element_iff.mp (hchildren _ hn)).1 hcontent
      | _ => cases hnc
    · exact hdraws hown hfound
  · exact hm v hdefault

/-- So are the values of all resolved modifiers. -/
theorem mem_of_get?_resolve (hr : r.texts ⊆ given) {e : Element}
    (he : (Node.element e).Draws given) {key v : String} (h : (r.resolve e).get? key = some v) :
    v ∈ given := by
  obtain ⟨p, hp, hv⟩ := List.mem_filterMap.mp (Dict.mem_of_get?_ofList h)
  obtain ⟨w, hw, heq⟩ := Option.map_eq_some_iff.mp hv
  cases heq
  exact mem_of_modifierValue? he (fun w hw => hr (default_mem_texts hp hw)) hw

/-- Synthesized elements bring in texts of the rune and modifier values alone, and are not deeper
than the entries are heavy. -/
theorem draws_synthesized (hr : r.texts ⊆ given) {modifiers : Dict String}
    (hgiven : ∀ key value, modifiers.get? key = some value → value ∈ given) {before : Bool}
    {x : Node} (h : x ∈ r.synthesized modifiers before) :
    x.Draws given ∧ x.depth ≤ total (r.scaffold.values.map StructureEntry.weight) := by
  obtain ⟨p, hp, y, hy, rfl⟩ := exists_build_of_mem_synthesized h
  have htexts := List.Subset.trans (entry_texts_subset hp) hr
  refine ⟨StructureEntry.draws_build hgiven p.2 htexts hy, ?_⟩
  have hmem : p.2.weight ∈ r.scaffold.values.map StructureEntry.weight :=
    List.mem_map.mpr ⟨p.2, List.mem_map.mpr ⟨p, hp, rfl⟩, rfl⟩
  exact (StructureEntry.depth_build_le p.2 hy).trans (List.le_sum_of_mem hmem)

end Rune

end Livery
