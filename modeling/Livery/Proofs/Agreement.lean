import Livery.Proofs.Consumption
import Livery.Proofs.Termination

/-!
# Themes that agree on a document

Dressing a document looks up the types that occur in it (`Node.types`) and no others : labels, the
content wrapper and element classes bring in no types, and neither do synthesized elements if no
entry sets a type (`Rune.Untyped`). So two themes with one prefix that declare the same of these
types in the same way (`Theme.AgreesOn`) prepare the same nodes below each component
(`AgreesOn.prepared_eq`), and by induction on the depth they walk the document alike
(`AgreesOn.walk_eq`).

Without synthesized components all calls go into the content of a component, so the walk ends
(`not_endless_of_untyped`). The depth that `Theme.transform` allows differs from theme to theme, but
it is enough for both.
-/

namespace Livery

/-! ## The types in a document -/

namespace Node

/-- The component types that occur in a document, in document order. -/
def types (n : Node) : List String := n.elements.filterMap Element.typeOf?

theorem mem_types_iff {n : Node} {type : String} :
    type ∈ n.types ↔ ∃ e ∈ n.elements, e.typeOf? = some type := by
  simp [types]

theorem types_array (nodes : List Node) : (array nodes).types = nodes.flatMap types := by
  rw [types, elements_array, List.filterMap_flatMap]
  rfl

theorem types_element (e : Element) :
    (element e).types = e.typeOf?.toList ++ e.children.flatMap types := by
  simp only [types, elements_element, List.filterMap_cons, List.filterMap_flatMap]
  cases e.typeOf? <;> rfl

theorem typeOf?_mem_types {e : Element} {type : String} (h : e.typeOf? = some type) :
    type ∈ (element e).types := by
  simp [types_element, h]

/-- What stands below an element has its types among those of the element. -/
theorem types_subset_of_mem {e : Element} {m : Node} (hm : m ∈ e.children) :
    m.types ⊆ (element e).types := by
  intro type htype
  rw [types_element]
  exact List.mem_append_right _ (List.mem_flatMap.mpr ⟨m, hm, htype⟩)

theorem not_mem_types_array_iff {nodes : List Node} {type : String} :
    type ∉ (array nodes).types ↔ ∀ m ∈ nodes, type ∉ m.types := by
  simp [types_array]

theorem not_mem_types_element_iff {e : Element} {type : String} :
    type ∉ (element e).types ↔ e.typeOf? ≠ some type ∧ ∀ m ∈ e.children, type ∉ m.types := by
  simp [types_element]

end Node

namespace Rune

theorem typeOf?_relabelled (r : Rune) (e : Element) : (r.relabelled e).typeOf? = e.typeOf? :=
  r.attr?_relabelled e (by decide)

theorem types_labelled (r : Rune) (n : Node) : (r.labelled n).types = n.types := by
  cases n with
  | element e =>
    rw [r.labelled_element, Node.types_element, Node.types_element, r.typeOf?_relabelled,
      r.children_relabelled]
  | _ => rw [r.labelled_of_not_element rfl]

theorem types_wrapped (r : Rune) (l : List Node) :
    (r.wrapped l).flatMap Node.types = l.flatMap Node.types := by
  refine r.flatMap_wrapped (fun w l => ?_) l
  rw [Node.types_element, w.typeOf?_around, w.children_around]
  rfl

end Rune

namespace Theme

variable {t : Theme}

theorem types_marked (block : String) (n : Node) : (t.marked block n).types = n.types := by
  refine marked_induct block (motive := fun n m => m.types = n.types) (fun _ => rfl) ?_ n
  intro e value _ ih
  rw [Node.types_element, Node.types_element, Element.typeOf?_classed, List.flatMap_map]
  exact congrArg _ (List.flatMap_congr ih)

/-- Element classes depend on which elements are components, and on nothing else of a theme. -/
theorem marked_congr {t' : Theme} (block : String) {n : Node}
    (h : ∀ e ∈ n.elements, t.isComponent e = t'.isComponent e) :
    t.marked block n = t'.marked block n := by
  induction n using Node.induct with
  | leaf n hleaf =>
    have hplain := Node.isElement_of_isBranch hleaf
    rw [marked_of_not_element block hplain, marked_of_not_element block hplain]
  | array nodes => rw [marked_of_not_element block rfl, marked_of_not_element block rfl]
  | element e ih =>
    have hsame := h e (Node.mem_elements_iff.mpr (Or.inl rfl))
    cases hc : t.isComponent e with
    | true => rw [marked_component block hc, marked_component block (hsame ▸ hc)]
    | false =>
      cases hl : Text.nonEmpty? e.label? with
      | none => rw [marked_unlabelled block hl, marked_unlabelled block hl]
      | some label =>
        have hbelow : e.children.map (t.marked block) = e.children.map (t'.marked block) :=
          List.map_congr_left fun m hm => ih m hm fun x hx =>
            h x (Node.mem_elements_iff.mpr (Or.inr ⟨m, hm, hx⟩))
        rw [marked_labelled block hc hl, marked_labelled block (hsame ▸ hc) hl, hbelow]

/-- Where no type is declared there is no component. -/
theorem nearest_eq_nil_of_types {n : Node} (h : ∀ type ∈ n.types, t.runes.get? type = none) :
    t.nearest n = [] := by
  rw [List.eq_nil_iff_forall_not_mem]
  intro b hb
  refine nearest_induct
    (motive := fun n => ¬ ∀ type ∈ n.types, t.runes.get? type = none) ?here ?below hb h
  case here =>
    intro hc hnone
    obtain ⟨type, r, hr⟩ := isComponent_iff.mp hc
    obtain ⟨name, hname, hget⟩ := Option.bind_eq_some_iff.mp hr
    rw [hnone name (Node.typeOf?_mem_types hname)] at hget
    cases hget
  case below =>
    intro n m _ hm ih hnone
    refine ih fun type htype => hnone type ?_
    rw [Node.mem_types_iff] at htype ⊢
    obtain ⟨e, he, htype⟩ := htype
    exact ⟨e, Node.mem_elements_iff.mpr (Or.inr ⟨m, hm, he⟩), htype⟩

/-- Where there is no component nothing is grafted. -/
theorem graft_eq_self {f : Element → Node} {n : Node} (h : t.nearest n = []) :
    t.graft f n = n := by
  induction n using Node.induct with
  | leaf n hn => exact graft_leaf f hn
  | array nodes ih =>
    rw [nearest_array, List.flatMap_eq_nil_iff] at h
    rw [graft_array, List.map_congr_left fun m hm => ih m hm (h m hm), List.map_id']
  | element e ih =>
    by_cases hc : t.isComponent e = true
    · rw [nearest_component hc] at h
      cases h
    rw [Bool.not_eq_true] at hc
    rw [nearest_plain hc, List.flatMap_eq_nil_iff] at h
    rw [graft_plain f hc, List.map_congr_left fun m hm => ih m hm (h m hm), List.map_id']
    cases e
    rfl

end Theme

/-! ## Entries at every depth -/

/-- `P` holds of an entry and of all entries nested in it. -/
inductive StructureEntry.Throughout (P : StructureEntry → Prop) : StructureEntry → Prop
  | mk {e : StructureEntry} (here : P e)
      (below : ∀ c, .entry c ∈ e.children → Throughout P c) : Throughout P e

namespace StructureEntry

variable {modifiers : Dict String}

/-- An attribute of a built element other than its label is the one that its entry sets. -/
theorem get?_builtAttrs (e : StructureEntry) (name : String) {key : String} (h : key ≠ labelKey) :
    (e.builtAttrs modifiers name).get? key = (e.attrs.get? key).map (attrValue modifiers) := by
  rw [builtAttrs, Dict.get?_extend_entries, Dict.get?_mapValues, Dict.get?_insert, if_neg h]
  exact Option.or_none

/-- All elements that an entry builds are built from an entry with `P`. -/
theorem Throughout.of_mem_elements {P : StructureEntry → Prop} (e : StructureEntry) :
    e.Throughout P → ∀ {name : String} {x : Element}, e.build modifiers name = some x →
      ∀ y ∈ (Node.element x).elements, ∃ c label, P c ∧ y.attrs = c.builtAttrs modifiers label := by
  induction e using induct with
  | h e ih =>
    rintro ⟨here, below⟩ name x hx y hy
    obtain ⟨hattrs, hchildren⟩ := build_cases hx
    rcases Node.mem_elements_iff.mp hy with heq | ⟨m, hm, hy⟩
    · cases heq
      exact ⟨e, name, here, hattrs⟩
    rcases hchildren m hm with ⟨s, rfl⟩ | ⟨c, z, hc, hz, rfl⟩
    · simp [Node.elements] at hy
    · exact ih c hc (below c hc) hz y hy

end StructureEntry

/-- A synthesized element has the tag of an entry, and the attributes that the entry sets. -/
theorem Rune.exists_entry_of_mem_synthesized {r : Rune} {modifiers : Dict String} {before : Bool}
    {n : Node} (h : n ∈ r.synthesized modifiers before) :
    ∃ p ∈ r.scaffold.entries, ∃ x, n = .element x ∧ x.name = p.2.tag ∧ ∀ key, key ≠ labelKey →
      x.attr? key = (p.2.attrs.get? key).map (StructureEntry.attrValue modifiers) := by
  obtain ⟨p, hp, x, hx, rfl⟩ := exists_build_of_mem_synthesized h
  refine ⟨p, hp, x, rfl, StructureEntry.name_build hx, fun key hkey => ?_⟩
  rw [Element.attr?, (StructureEntry.build_cases hx).1, p.2.get?_builtAttrs p.1 hkey]

/-- No synthesized element of a rune is given a type, at any depth. -/
def Rune.Untyped (r : Rune) : Prop :=
  ∀ p ∈ r.scaffold.entries, p.2.Throughout fun e => e.attrs.get? typeofKey = none

theorem Rune.Untyped.types_synthesized {r : Rune} (h : r.Untyped) {modifiers : Dict String}
    {before : Bool} {n : Node} (hn : n ∈ r.synthesized modifiers before) : n.types = [] := by
  obtain ⟨p, hp, x, hx, rfl⟩ := exists_build_of_mem_synthesized hn
  rw [List.eq_nil_iff_forall_not_mem]
  intro type htype
  obtain ⟨y, hy, htype⟩ := Node.mem_types_iff.mp htype
  obtain ⟨e, label, hnone, hattrs⟩ := (h p hp).of_mem_elements p.2 hx y hy
  rw [Element.typeOf?, Element.attr?, hattrs, e.get?_builtAttrs label (by decide), hnone] at htype
  cases htype

/-! ## Agreement -/

namespace Theme

variable {t t' : Theme} {types : List String}

/-- Two themes with one prefix that declare the same of some types, in the same way. -/
structure AgreesOn (t t' : Theme) (types : List String) : Prop where
  classPrefix : t.classPrefix = t'.classPrefix
  runes : ∀ type ∈ types, t.runes.get? type = t'.runes.get? type

namespace AgreesOn

theorem runeOf?_eq (h : t.AgreesOn t' types) {e : Element}
    (he : (Node.element e).types ⊆ types) : t.runeOf? e = t'.runeOf? e := by
  unfold runeOf?
  cases htype : e.typeOf? with
  | none => rfl
  | some type =>
    rw [Option.bind_some, Option.bind_some, h.runes type (he (Node.typeOf?_mem_types htype))]

theorem blockClass_eq (h : t.AgreesOn t' types) (r : Rune) : t.blockClass r = t'.blockClass r := by
  rw [blockClass, blockClass, h.classPrefix]

theorem marked_eq (h : t.AgreesOn t' types) (block : String) {n : Node} (hn : n.types ⊆ types) :
    t.marked block n = t'.marked block n := by
  refine marked_congr block fun e he => ?_
  rw [isComponent, isComponent, runeOf?, runeOf?]
  cases htype : e.typeOf? with
  | none => rfl
  | some type =>
    rw [Option.bind_some, Option.bind_some,
      h.runes type (hn (Node.mem_types_iff.mpr ⟨e, he, htype⟩))]

/-- What is walked below a component brings in no types. -/
theorem types_arranged {r : Rune} (hr : r.Untyped) {e : Element}
    (he : (Node.element e).types ⊆ types) {m : Node} (hm : m ∈ r.arranged e) :
    m.types ⊆ types := by
  have hcontent : (r.wrapped (e.children.map r.labelled)).flatMap Node.types =
      e.children.flatMap Node.types := by
    simp only [r.types_wrapped, List.flatMap_map, r.types_labelled]
  rcases Rune.mem_arranged hm with ⟨before, hm⟩ | hm
  · simp [hr.types_synthesized hm]
  · intro type htype
    have hmem : type ∈ e.children.flatMap Node.types :=
      hcontent ▸ List.mem_flatMap.mpr ⟨m, hm, htype⟩
    exact he (Node.types_element e ▸ List.mem_append_right _ hmem)

/-- The same nodes are walked below a component. -/
theorem prepared_eq (h : t.AgreesOn t' types) {r : Rune} (hr : r.Untyped) {e : Element}
    (he : (Node.element e).types ⊆ types) : t.prepared r e = t'.prepared r e := by
  rw [prepared, prepared, ← Rune.arranged, h.blockClass_eq]
  exact List.map_congr_left fun m hm => h.marked_eq _ (types_arranged hr he hm)

theorem dressed_eq (h : t.AgreesOn t' types) (type : String) (r : Rune) (parent : Option String)
    (e : Element) (walked : List Node) :
    t.dressed type r parent e walked = t'.dressed type r parent e walked := by
  rw [dressed, dressed, h.blockClass_eq]

/-- The types below a component that is walked stay among those of the document. -/
theorem types_prepared {r : Rune} (hr : r.Untyped) {e : Element}
    (he : (Node.element e).types ⊆ types) {m : Node} (hm : m ∈ t.prepared r e) :
    m.types ⊆ types := by
  rw [prepared, ← Rune.arranged] at hm
  obtain ⟨x, hx, rfl⟩ := List.mem_map.mp hm
  rw [types_marked]
  exact types_arranged hr he hx

/-- Themes that agree on the types of a node walk it alike, to any depth. -/
theorem walk_eq (h : t.AgreesOn t' types)
    (hplain : ∀ type ∈ types, ∀ r, t.runes.get? type = some r → r.Untyped) :
    ∀ (d : ℕ) (within : Option String) {n : Node}, n.types ⊆ types →
      t.walk d within n = t'.walk d within n
  | 0, _, _, _ => rfl
  | d + 1, within, n, hn => by
    have below : ∀ (within : Option String) {l : List Node}, (∀ m ∈ l, m.types ⊆ types) →
        l.mapM (t.walk d within) = l.mapM (t'.walk d within) :=
      fun within _ hl => mapM_congr_option fun m hm => walk_eq h hplain d within (hl m hm)
    cases n with
    | array nodes =>
      rw [walk_array, walk_array, below within fun m hm type htype => hn ?_]
      rw [Node.types_array]
      exact List.mem_flatMap.mpr ⟨m, hm, htype⟩
    | element e =>
      have hsame := h.runeOf?_eq hn
      rcases t.runeOf?_cases e with he | ⟨type, r, he⟩
      · rw [walk_plain he, walk_plain (hsame ▸ he), below within fun m hm =>
          List.Subset.trans (Node.types_subset_of_mem hm) hn]
      · have hr := hplain type (hn (Node.typeOf?_mem_types (typeOf?_of_runeOf? he))) r
          (get?_of_runeOf? he)
        rw [walk_component he, walk_component (hsame ▸ he), h.prepared_eq hr hn,
          below (some type) fun m hm => types_prepared hr hn hm]
        simp only [h.dressed_eq]
    | _ => rw [walk_leaf d within rfl, walk_leaf d within rfl]

end AgreesOn

/-! ## The walk ends -/

/-- If the runes of the types in a document are untyped then the walk of it ends. -/
theorem not_endless_of_untyped {n : Node}
    (hplain : ∀ type ∈ n.types, ∀ r, t.runes.get? type = some r → r.Untyped) : ¬ t.Endless n := by
  have hnear : ∀ m : Node, m.types ⊆ n.types → ∀ b ∈ t.nearest m,
      (Node.element b).types ⊆ n.types := by
    intro m hm b hb
    refine nearest_induct
      (motive := fun m => m.types ⊆ n.types → (Node.element b).types ⊆ n.types)
      (fun _ h => h) (fun m m' _ hm' ih h => ih fun type htype => h ?_) hb hm
    obtain ⟨e, he, htype⟩ := Node.mem_types_iff.mp htype
    exact Node.mem_types_iff.mpr ⟨e, Node.mem_elements_iff.mpr (Or.inr ⟨m', hm', he⟩), htype⟩
  refine not_endless_of_calls (Q := fun e => (Node.element e).types ⊆ n.types) ?_
    (hnear n (List.Subset.refl _))
  intro e e' he hcall
  obtain ⟨type, r, hr, -⟩ := id hcall
  have huntyped := hplain type (he (Node.typeOf?_mem_types (typeOf?_of_runeOf? hr))) r
    (get?_of_runeOf? hr)
  obtain ⟨hlt, m, hm, hmem⟩ := depth_lt_of_calls hr
    (fun before x hx => nearest_eq_nil_of_types (by simp [huntyped.types_synthesized hx])) hcall
  refine ⟨hnear (r.labelled m) ?_ e' hmem, hlt⟩
  rw [r.types_labelled]
  exact List.Subset.trans (Node.types_subset_of_mem hm) he

/-- A theme of untyped runes dresses every document. -/
theorem isSome_transform (hplain : ∀ r ∈ t.runes.values, r.Untyped) (within : Option String)
    (n : Node) : (t.transform within n).isSome = true :=
  (ends_iff within).mp <| ends_reach <| not_endless_of_untyped fun _ _ r hr =>
    hplain r (t.runes.mem_values_of_get? hr)

/-! ## Unused runes -/

/--
What a theme declares for types that do not occur in a document has no influence on its dressed
form. Two themes with one prefix that declare the same of the types in it, in the same way, dress it
alike in every context, if no entry of the runes for these types sets a type. A document without
components comes out as it is.
-/
theorem transform_of_agreesOn {t t' : Theme} {n : Node} (h : t.AgreesOn t' n.types)
    (hplain : ∀ type ∈ n.types, ∀ r, t.runes.get? type = some r → r.Untyped)
    (within : Option String) :
    ∃ out, t.transform within n = some out ∧ t'.transform within n = some out ∧
      ((∀ e ∈ n.elements, t.isComponent e = false) → out = n) := by
  obtain ⟨out, hout⟩ := Option.isSome_iff_exists.mp
    ((ends_iff within).mp (ends_reach (not_endless_of_untyped hplain)))
  have hyields : t.Yields within n out := ⟨_, hout⟩
  have hyields' : t'.Yields within n out := by
    rw [h.walk_eq hplain _ within (List.Subset.refl _)] at hout
    exact ⟨_, hout⟩
  refine ⟨out, transform_eq_some_iff.mpr hyields, transform_eq_some_iff.mpr hyields', ?_⟩
  intro hnone
  have hnearest : t.nearest n = [] := by
    refine nearest_eq_nil_of_types fun type htype => ?_
    obtain ⟨e, he, htype⟩ := Node.mem_types_iff.mp htype
    have hrune := isComponent_eq_false_iff.mp (hnone e he)
    rw [runeOf?, htype, Option.bind_some, Option.map_eq_none_iff] at hrune
    exact hrune
  rw [(yields_graft hyields).2, graft_eq_self hnearest]

end Theme

/-- `hintTheme` with panels and icons, and with other token names. -/
def panelledHintTheme : Theme :=
  { hintTheme.withRune "Panel" { block := "panel", contentWrapper := some ⟨"div", "body"⟩ } with
    tokenPrefix := "--rf", icons := .ofList [("hint", .ofList [("note", "<svg/>")])] }

/-- Panels have no influence on a hint. -/
theorem transform_of_agreesOn_hint :
    hintTheme.AgreesOn panelledHintTheme (Node.element (hint [kind, .text "a"])).types ∧
    (∀ type ∈ (Node.element (hint [kind, .text "a"])).types, ∀ r,
      hintTheme.runes.get? type = some r → r.Untyped) ∧
    hintTheme.transform none (.element (hint [kind, .text "a"])) = some (dressedHint [.text "a"]) ∧
    panelledHintTheme.transform none (.element (hint [kind, .text "a"])) =
      some (dressedHint [.text "a"]) := by
  have htypes : (Node.element (hint [kind, .text "a"])).types = ["Hint"] := by cbv
  have hagrees : hintTheme.AgreesOn panelledHintTheme
      (Node.element (hint [kind, .text "a"])).types := by
    refine ⟨rfl, fun type htype => ?_⟩
    rw [htypes, List.mem_singleton] at htype
    rw [htype]
    rfl
  have hplain : ∀ type ∈ (Node.element (hint [kind, .text "a"])).types, ∀ r,
      hintTheme.runes.get? type = some r → r.Untyped := by
    rintro type htype r hr p hp
    rw [htypes, List.mem_singleton] at htype
    subst htype
    cases hr
    cases hp
  have hdressed : hintTheme.transform none (.element (hint [kind, .text "a"])) =
      some (dressedHint [.text "a"]) := Theme.transform_eq_some_iff.mpr ⟨3, by cbv⟩
  obtain ⟨out, hout, hout', -⟩ := Theme.transform_of_agreesOn hagrees hplain none
  obtain rfl := Option.some.inj (hdressed.symm.trans hout)
  exact ⟨hagrees, hplain, hdressed, hout'⟩

end Livery
