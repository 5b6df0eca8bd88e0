import Mathlib.Data.List.Perm.Subperm
import Livery.Document.Equality
import Livery.Proofs.ElementClass
import Livery.Proofs.Selectors
import Livery.Proofs.Termination

/-!
# The order of attributes

Two documents are the same if they differ in the order of attributes only (`Node.Same`). Attributes
are read by their keys, and a key reads the same in both documents, so each pass over the children
of a component makes the same nodes of them : labels (`Same.labelled`), the content wrapper, the
synthesized elements, which depend on modifier values alone (`Element.Same.resolve_eq`), element
classes (`Same.marked`), and the look at consumed `meta` elements (`Same.consumes_eq`). By induction
on the depth of the walk the dressed documents are the same (`Theme.walk_same`).

What is read off a document does not depend on the order either : its text, and its selectors, which
are sorted after they are collected.
-/

namespace Livery

open Text (nonEmpty?)

/-! ## Maps with the same pairs -/

namespace Dict

variable {α : Type}

theorem nodup_entries (d : Dict α) : d.entries.Nodup := List.Nodup.of_map _ d.nodup

/-- Maps that read the same hold the same pairs. -/
theorem perm_entries_iff {d e : Dict α} :
    d.entries.Perm e.entries ↔ ∀ key, d.get? key = e.get? key := by
  rw [List.perm_ext_iff_of_nodup d.nodup_entries e.nodup_entries]
  constructor
  · intro h key
    exact Option.ext fun value => by rw [← mem_entries_iff, ← mem_entries_iff, h]
  · rintro h ⟨key, value⟩
    rw [mem_entries_iff, mem_entries_iff, h]

theorem same_iff [DecidableEq α] {d e : Dict α} :
    d.same e = true ↔ ∀ key, d.get? key = e.get? key := by
  rw [← perm_entries_iff, same, Bool.and_eq_true, decide_eq_true_eq, List.all_eq_true]
  constructor
  · rintro ⟨hsize, hall⟩
    have hsub : d.entries ⊆ e.entries :=
      fun p hp => mem_entries_iff.mpr (of_decide_eq_true (hall p hp))
    exact (List.subperm_of_subset d.nodup_entries hsub).perm_of_length_le hsize.ge
  · intro h
    exact ⟨h.length_eq, fun p hp => decide_eq_true (mem_entries_iff.mp (h.subset hp))⟩

/-- Setting the same pairs keeps maps that read the same so. -/
theorem get?_extend_congr {l : Entries α} {d e : Dict α} (h : ∀ key, d.get? key = e.get? key)
    (key : String) : (d.extend l).get? key = (e.extend l).get? key := by
  rw [get?_extend, get?_extend, h]

end Dict

/-! ## The same documents -/

namespace Node

/-- Whether two nodes are the same up to the order of attributes. -/
abbrev Same (n m : Node) : Prop := n.same m = true

theorem sameAll_iff : ∀ {l l' : List Node}, sameAll l l' = true ↔ List.Forall₂ Same l l'
  | [], [] => by simp [sameAll]
  | [], _ :: _ => by simp [sameAll]
  | _ :: _, [] => by simp [sameAll]
  | n :: l, m :: l' => by
    rw [sameAll, Bool.and_eq_true, List.forall₂_cons, sameAll_iff]

theorem same_array_iff {l : List Node} {m : Node} :
    Same (.array l) m ↔ ∃ l', m = .array l' ∧ List.Forall₂ Same l l' := by
  cases m <;> simp [Same, same, sameAll_iff]

end Node

/-- Two elements that are the same up to the order of attributes. -/
structure Element.Same (e f : Element) : Prop where
  name : e.name = f.name
  attr : ∀ key, e.attr? key = f.attr? key
  children : List.Forall₂ Node.Same e.children f.children

namespace Node

theorem same_element_iff {e : Element} {m : Node} :
    Same (.element e) m ↔ ∃ f, m = .element f ∧ e.Same f := by
  obtain ⟨name, attrs, children⟩ := e
  cases m with
  | element f =>
    simp only [Same, same, Bool.and_eq_true, decide_eq_true_eq, Dict.same_iff, sameAll_iff,
      element.injEq, exists_eq_left']
    exact ⟨fun h => ⟨h.1.1, h.1.2, h.2⟩, fun h => ⟨⟨h.name, h.attr⟩, h.children⟩⟩
  | _ => simp [Same, same]

theorem Same.not_element {n m : Node} (h : n.Same m) (hn : n.isElement = false) :
    m.isElement = false := by
  cases m with
  | element f => cases n <;> simp_all [Same, same, isElement, asElement?]
  | _ => rfl

end Node

namespace Element.Same

variable {e f : Element}

theorem node (h : e.Same f) : Node.Same (.element e) (.element f) :=
  Node.same_element_iff.mpr ⟨f, rfl, h⟩

theorem withAttr (h : e.Same f) (key value : String) :
    (e.withAttr key value).Same (f.withAttr key value) where
  name := h.name
  attr := fun k => by
    have hk := h.attr k
    simp only [attr?, Element.withAttr, Dict.get?_insert] at hk ⊢
    rw [hk]
  children := h.children

theorem childElements (h : e.Same f) :
    List.Forall₂ Element.Same e.childElements f.childElements := by
  refine List.rel_filterMap (fun n m hnm => ?_) h.children
  cases n with
  | element c =>
    obtain ⟨c', rfl, hc⟩ := Node.same_element_iff.mp hnm
    exact Option.Rel.some hc
  | _ =>
    have hm := hnm.not_element rfl
    cases m with
    | element c' => cases hm
    | _ => exact Option.Rel.none

end Element.Same

/-- Lists of the same elements have the first match for a test at the same place. -/
theorem find?_same {p : Element → Bool} (hp : ∀ {e f : Element}, e.Same f → p e = p f)
    {l l' : List Element} (h : List.Forall₂ Element.Same l l') :
    Option.Rel Element.Same (l.find? p) (l'.find? p) := by
  induction h with
  | nil => exact Option.Rel.none
  | cons hef _ ih =>
    rw [List.find?_cons, List.find?_cons, hp hef]
    split
    · exact Option.Rel.some hef
    · exact ih

namespace Element.Same

variable {e f : Element}

theorem readMeta?_eq (h : e.Same f) (property : String) :
    e.readMeta? property = f.readMeta? property := by
  have hfind : Option.Rel Element.Same (e.findMeta? property) (f.findMeta? property) :=
    find?_same (fun hc => by rw [hc.name, hc.attr]) h.childElements
  rw [readMeta?, readMeta?]
  generalize e.findMeta? property = x at hfind ⊢
  generalize f.findMeta? property = y at hfind ⊢
  cases hfind with
  | none => rfl
  | some hc => exact hc.attr _

/-- Modifiers have the same values. -/
theorem resolve_eq (h : e.Same f) (r : Rune) : r.resolve e = r.resolve f := by
  rw [Rune.resolve, Rune.resolve]
  congr 2
  funext p
  simp only [Rune.modifierValue?, h.attr, h.readMeta?_eq]

/-- The attributes of the root read the same. -/
theorem rootAttrs (h : e.Same f) (r : Rune) (type block : String) (parent : Option String) :
    ∀ key, (r.rootAttrs type block parent e).get? key =
      (r.rootAttrs type block parent f).get? key := by
  simp only [Rune.rootAttrs, Rune.style, h.resolve_eq, h.attr]
  exact Dict.get?_extend_congr h.attr

theorem relabelled (h : e.Same f) (r : Rune) : (r.relabelled e).Same (r.relabelled f) := by
  have hlabel : r.newLabel? e = r.newLabel? f := by
    rw [Rune.newLabel?, Rune.newLabel?, label?, label?, h.attr, h.attr, h.name]
  rw [Rune.relabelled, Rune.relabelled, hlabel]
  split
  · exact h.withAttr _ _
  · exact h

theorem runeOf?_eq (h : e.Same f) (t : Theme) : t.runeOf? e = t.runeOf? f :=
  Theme.runeOf?_congr (h.attr _)

end Element.Same

/-! ## The passes over the children -/

namespace Node.Same

variable {n m : Node}

theorem labelled (h : n.Same m) (r : Rune) : (r.labelled n).Same (r.labelled m) := by
  cases n with
  | element e =>
    obtain ⟨f, rfl, hef⟩ := same_element_iff.mp h
    rw [r.labelled_element, r.labelled_element]
    exact (hef.relabelled r).node
  | _ => rwa [r.labelled_of_not_element rfl, r.labelled_of_not_element (h.not_element rfl)]

theorem marked (t : Theme) (block : String) : ∀ {m : Node}, n.Same m →
    (t.marked block n).Same (t.marked block m) := by
  induction n using Node.induct with
  | element e ih =>
    intro m h
    obtain ⟨f, rfl, hef⟩ := same_element_iff.mp h
    have hcomponent := Theme.isComponent_congr (t := t) (hef.attr typeofKey)
    have hlabel : nonEmpty? e.label? = nonEmpty? f.label? := congrArg nonEmpty? (hef.attr labelKey)
    cases hc : t.isComponent e with
    | true =>
      rw [Theme.marked_component block hc, Theme.marked_component block (hcomponent ▸ hc)]
      exact h
    | false =>
      cases hl : nonEmpty? e.label? with
      | none =>
        rw [Theme.marked_unlabelled block hl, Theme.marked_unlabelled block (hlabel ▸ hl)]
        exact h
      | some label =>
        have hclass : e.elementClass block label = f.elementClass block label := by
          rw [Element.elementClass, Element.elementClass, hef.attr]
        rw [Theme.marked_labelled block hc hl,
          Theme.marked_labelled block (hcomponent ▸ hc) (hlabel ▸ hl), hclass]
        refine Element.Same.node ⟨hef.name, (hef.withAttr _ _).attr, ?_⟩
        rw [List.forall₂_map_left_iff, List.forall₂_map_right_iff]
        exact ((List.forall₂_and_left _ _).mpr ⟨ih, hef.children⟩).imp fun _ _ h => h.1 h.2
  | array nodes ih =>
    intro m h
    rwa [Theme.marked_of_not_element block rfl,
      Theme.marked_of_not_element block (h.not_element rfl)]
  | leaf n hn =>
    intro m h
    have hn' := Node.isElement_of_isBranch hn
    rwa [Theme.marked_of_not_element block hn',
      Theme.marked_of_not_element block (h.not_element hn')]

theorem consumes_eq (h : n.Same m) (r : Rune) : r.consumes n = r.consumes m := by
  cases n with
  | element e =>
    obtain ⟨f, rfl, hef⟩ := same_element_iff.mp h
    rw [Rune.consumes, Rune.consumes, hef.name, hef.attr]
  | _ =>
    have hm := h.not_element rfl
    cases m with
    | element f => cases hm
    | _ => rfl

end Node.Same

/-- A built element is the same as itself : it holds no number. -/
theorem StructureEntry.same_build {modifiers : Dict String} (e : StructureEntry) :
    ∀ {name : String} {x : Element}, e.build modifiers name = some x → x.Same x := by
  induction e using StructureEntry.induct with
  | h e ih =>
    intro name x hx
    refine ⟨rfl, fun _ => rfl, List.forall₂_same.mpr fun m hm => ?_⟩
    rcases (build_cases hx).2 m hm with ⟨s, rfl⟩ | ⟨c, y, hc, hy, rfl⟩
    · simp [Node.Same, Node.same]
    · exact (ih c hc hy).node

theorem Rune.same_synthesized (r : Rune) (modifiers : Dict String) (before : Bool) :
    List.Forall₂ Node.Same (r.synthesized modifiers before) (r.synthesized modifiers before) := by
  refine List.forall₂_same.mpr fun n hn => ?_
  obtain ⟨p, -, x, hx, rfl⟩ := exists_build_of_mem_synthesized hn
  exact (StructureEntry.same_build p.2 hx).node

theorem Rune.same_wrapped (r : Rune) {l l' : List Node} (h : List.Forall₂ Node.Same l l') :
    List.Forall₂ Node.Same (r.wrapped l) (r.wrapped l') := by
  cases hw : r.contentWrapper with
  | none => rwa [Rune.wrapped_none hw, Rune.wrapped_none hw]
  | some w =>
    rw [Rune.wrapped_some hw, Rune.wrapped_some hw]
    exact .cons (Element.Same.node ⟨rfl, fun _ => rfl, h⟩) .nil

namespace Theme

variable {t : Theme}

/-- The same nodes are walked below a component. -/
theorem same_prepared (t : Theme) {e f : Element} (h : e.Same f) (r : Rune) :
    List.Forall₂ Node.Same (t.prepared r e) (t.prepared r f) := by
  have hchildren : List.Forall₂ Node.Same (e.children.map r.labelled) (f.children.map r.labelled) :=
    List.rel_map (fun _ _ hnm => hnm.labelled r) h.children
  rw [prepared, prepared, h.resolve_eq r]
  have harranged := List.rel_append
    (List.rel_append (r.same_synthesized (r.resolve f) true) (r.same_wrapped hchildren))
    (r.same_synthesized (r.resolve f) false)
  exact List.rel_map (fun _ _ hnm => Node.Same.marked t _ hnm) harranged

/-- The same component comes out of the same walked nodes. -/
theorem same_dressed {e f : Element} (h : e.Same f) {type : String} {r : Rune}
    (hr : r.hook = none) (within : Option String) {l l' : List Node}
    (hl : List.Forall₂ Node.Same l l') :
    (t.dressed type r within e l).Same (t.dressed type r within f l') := by
  rw [dressed, dressed, hr]
  refine ⟨h.name, h.rootAttrs r type (t.blockClass r) within, ?_⟩
  refine List.rel_filter (fun n m hnm => ?_) hl
  simp only [Node.Same.consumes_eq hnm r]

/-! ## The walk -/

/-- Results in a row for the same items. -/
theorem mapM_same {g : Node → Option Node}
    (hg : ∀ {n m out}, n.Same m → g n = some out → ∃ out', g m = some out' ∧ out.Same out')
    {l l' outs : List Node} (h : List.Forall₂ Node.Same l l') (hl : l.mapM g = some outs) :
    ∃ outs', l'.mapM g = some outs' ∧ List.Forall₂ Node.Same outs outs' := by
  simp only [mapM_eq_some_iff] at hl ⊢
  induction h generalizing outs with
  | nil => exact ⟨[], .nil, by cases hl; exact .nil⟩
  | cons hnm _ ih =>
    obtain ⟨out, outs, hn, hrest, rfl⟩ := List.forall₂_cons_left_iff.mp hl
    obtain ⟨out', hm, hout⟩ := hg hnm hn
    obtain ⟨outs', hl', houts⟩ := ih hrest
    exact ⟨out' :: outs', .cons hm hl', .cons hout houts⟩

/-- The walk of the same node returns at the same depth, with the same dressed form. -/
theorem walk_same (ht : t.HookFree) : ∀ (d : ℕ) {within : Option String} {n m out : Node},
    n.Same m → t.walk d within n = some out →
      ∃ out', t.walk d within m = some out' ∧ out.Same out'
  | 0, _, _, _, _, _, h => by simp at h
  | d + 1, within, n, m, out, hnm, h => by
    have below : ∀ {within : Option String} {l l' outs : List Node},
        List.Forall₂ Node.Same l l' → l.mapM (t.walk d within) = some outs →
        ∃ outs', l'.mapM (t.walk d within) = some outs' ∧ List.Forall₂ Node.Same outs outs' :=
      mapM_same (walk_same ht d)
    cases n with
    | array nodes =>
      obtain ⟨nodes', rfl, hnodes⟩ := Node.same_array_iff.mp hnm
      rw [walk_array, Option.map_eq_some_iff] at h
      obtain ⟨outs, houts, rfl⟩ := h
      obtain ⟨outs', houts', hsame⟩ := below hnodes houts
      exact ⟨.array outs', by rw [walk_array, houts']; rfl, Node.same_array_iff.mpr ⟨_, rfl, hsame⟩⟩
    | element e =>
      obtain ⟨f, rfl, hef⟩ := Node.same_element_iff.mp hnm
      rcases t.runeOf?_cases e with he | ⟨type, r, he⟩
      · have hf := hef.runeOf?_eq t ▸ he
        rw [walk_plain he, Option.map_eq_some_iff] at h
        obtain ⟨outs, houts, rfl⟩ := h
        obtain ⟨outs', houts', hsame⟩ := below hef.children houts
        exact ⟨.element { f with children := outs' }, by rw [walk_plain hf, houts']; rfl,
          Element.Same.node ⟨hef.name, hef.attr, hsame⟩⟩
      · have hf := hef.runeOf?_eq t ▸ he
        rw [walk_component he, Option.map_eq_some_iff] at h
        obtain ⟨outs, houts, rfl⟩ := h
        obtain ⟨outs', houts', hsame⟩ := below (t.same_prepared hef r) houts
        exact ⟨_, by rw [walk_component hf, houts']; rfl,
          (same_dressed hef (ht.hook_eq_none he) within hsame).node⟩
    | _ =>
      have hm : m.isBranch = false := by cases m <;> simp_all [Node.Same, Node.same, Node.isBranch]
      rw [walk_leaf d within rfl] at h
      cases h
      exact ⟨m, walk_leaf d within hm, hnm⟩

end Theme

/-! ## What is read off a document -/

/-- The two zeros are written as the same text. -/
theorem plainNumber_of_isZero {x : Double} (h : x.isZero = true) : plainNumber x = "0" := by
  have hmagnitude : x.magnitude = 0 := of_decide_eq_true h
  have hbiased : x.biased = 0 := by rw [Double.biased, hmagnitude, Nat.zero_div]
  have hmantissa : x.mantissa = 0 := by
    rw [Double.mantissa, if_pos hbiased, Double.fraction, hmagnitude, Nat.zero_mod]
  have hfinite : x.isFinite = true := by rw [Double.isFinite, hmagnitude]; rfl
  have hexponent : ¬ 0 ≤ x.exponent := by rw [Double.exponent, if_pos hbiased]; decide
  have hwhole : x.wholePart? = some 0 := by
    rw [Double.wholePart?, hfinite, hmantissa]
    simp [hexponent]
  rw [plainNumber, hwhole]
  simp only [ne_eq, not_true_eq_false, and_false, if_false]
  rfl

theorem plainNumber_eq_of_same {x y : Double} (h : x.same y = true) :
    plainNumber x = plainNumber y := by
  simp only [Double.same, Bool.and_eq_true, Bool.or_eq_true, decide_eq_true_eq] at h
  rcases h.2 with hbits | ⟨hx, hy⟩
  · cases x
    cases y
    cases hbits
    rfl
  · rw [plainNumber_of_isZero hx, plainNumber_of_isZero hy]

namespace Node

/-- What is collected from the nodes below, for each of them from what is collected from it. -/
theorem forall₂_flatMap {α : Type} {R : α → α → Prop} {f : Node → List α} {l l' : List Node}
    (ih : ∀ n ∈ l, ∀ {m : Node}, n.Same m → List.Forall₂ R (f n) (f m))
    (h : List.Forall₂ Same l l') : List.Forall₂ R (l.flatMap f) (l'.flatMap f) :=
  List.rel_flatMap ((List.forall₂_and_left _ _).mpr ⟨ih, h⟩) fun _ _ h => h.1 h.2

/-- The same documents have leaves with the same texts. -/
theorem Same.leaves {n : Node} : ∀ {m : Node}, n.Same m →
    List.Forall₂ (fun x y : Leaf => x.content = y.content) n.leaves m.leaves := by
  induction n using Node.induct with
  | array nodes ih =>
    intro m h
    obtain ⟨nodes', rfl, hnodes⟩ := same_array_iff.mp h
    rw [leaves_array, leaves_array]
    exact forall₂_flatMap ih hnodes
  | element e ih =>
    intro m h
    obtain ⟨f, rfl, hef⟩ := same_element_iff.mp h
    rw [leaves_element, leaves_element]
    exact forall₂_flatMap ih hef.children
  | leaf n hn =>
    intro m h
    cases n <;> cases m <;> simp_all [Same, same, Node.leaves, Leaf.content, isBranch]
    exact plainNumber_eq_of_same h

/-- The same documents have the same text. -/
theorem Same.textContent_eq {n m : Node} (h : n.Same m) : n.textContent = m.textContent := by
  have hcontent : n.leaves.map Leaf.content = m.leaves.map Leaf.content := by
    rw [← List.forall₂_eq_eq_eq, List.forall₂_map_left_iff, List.forall₂_map_right_iff]
    exact h.leaves
  rw [textContent, textContent, hcontent]

/-- The elements of the same documents are the same, one by one. -/
theorem Same.elements {n : Node} : ∀ {m : Node}, n.Same m →
    List.Forall₂ Element.Same n.elements m.elements := by
  induction n using Node.induct with
  | array nodes ih =>
    intro m h
    obtain ⟨nodes', rfl, hnodes⟩ := same_array_iff.mp h
    rw [elements_array, elements_array]
    exact forall₂_flatMap ih hnodes
  | element e ih =>
    intro m h
    obtain ⟨f, rfl, hef⟩ := same_element_iff.mp h
    rw [elements_element, elements_element]
    exact .cons hef (forall₂_flatMap ih hef.children)
  | leaf n hn =>
    intro m h
    have hm : m.isBranch = false := by cases m <;> cases n <;> simp_all [Same, same, isBranch]
    rw [elements_leaf hn, elements_leaf hm]
    exact .nil

end Node

/-- The same element has the same selectors, in some order. -/
theorem Element.Same.selectors_perm {e f : Element} (h : e.Same f) (start : String) :
    (e.selectors start).Perm (f.selectors start) := by
  have hattrs : e.attrs.entries.Perm f.attrs.entries := Dict.perm_entries_iff.mpr h.attr
  rw [selectors, selectors, h.attr]
  exact List.Perm.append_left _ ((hattrs.filter _).map _)

/-- The same documents have the very same selectors. -/
theorem Node.Same.selectors_eq {n m : Node} (h : n.Same m) (classPrefix : String) :
    n.selectors classPrefix = m.selectors classPrefix := by
  refine selectors_eq_of_perm ?_
  have helements := h.elements
  generalize n.elements = l at helements ⊢
  generalize m.elements = l' at helements ⊢
  induction helements with
  | nil => exact List.Perm.refl _
  | cons hef _ ih =>
    rw [List.flatMap_cons, List.flatMap_cons]
    exact (hef.selectors_perm _).append ih

/-! ## The same documents, dressed -/

/--
A theme without hooks does not see the order of attributes. If it dresses one of two documents that
are the same up to that order, then it dresses the other, inside the same component, to the same up
to that order, with the same text and the very same list of selectors for any prefix.
-/
theorem Theme.transform_same {t : Theme} (ht : t.HookFree) {within : Option String}
    {n m out : Node} (h : n.same m = true) (hn : t.transform within n = some out) :
    ∃ out', t.transform within m = some out' ∧ out.same out' = true ∧
      out.textContent = out'.textContent ∧
      ∀ classPrefix, out.selectors classPrefix = out'.selectors classPrefix := by
  obtain ⟨d, hd⟩ := transform_eq_some_iff.mp hn
  obtain ⟨out', hd', hsame⟩ := walk_same ht d h hd
  exact ⟨out', transform_eq_some_iff.mpr ⟨d, hd'⟩, hsame, hsame.textContent_eq,
    hsame.selectors_eq⟩

/-- A hint with a title, in front of its type or behind it. -/
def titledHint (titleFirst : Bool) : Node :=
  .element ⟨"section", .ofList (if titleFirst then [("data-title", "a"), ("typeof", "Hint")]
    else [("typeof", "Hint"), ("data-title", "a")]), [.text "b"]⟩

/-- A dressed hint with a title. -/
def dressedTitledHint : Node :=
  .element ⟨"section", .ofList [("data-title", "a"), ("typeof", "Hint"), ("class", "rf-hint"),
    ("data-rune", "hint")], [.text "b"]⟩

theorem transform_same_titledHint :
    hintTheme.HookFree ∧ (titledHint true).same (titledHint false) = true ∧
    hintTheme.transform none (titledHint true) = some dressedTitledHint ∧
    ∃ out', hintTheme.transform none (titledHint false) = some out' ∧
      dressedTitledHint.same out' = true ∧
      ∀ classPrefix, dressedTitledHint.selectors classPrefix = out'.selectors classPrefix := by
  have hsame : (titledHint true).same (titledHint false) = true := by cbv
  have hdressed : hintTheme.transform none (titledHint true) = some dressedTitledHint :=
    Theme.transform_eq_some_iff.mpr ⟨2, by cbv⟩
  obtain ⟨out', hout', hsame', -, hselectors⟩ :=
    Theme.transform_same hookFree_hintTheme hsame hdressed
  exact ⟨hookFree_hintTheme, hsame, hdressed, out', hout', hsame', hselectors⟩

end Livery
