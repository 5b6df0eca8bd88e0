import Livery.Proofs.Consumption
import Livery.Proofs.Termination

/-!
# The content of a document

The content of a document is the sequence of its texts and numbers. Labels, element classes and the
content wrapper change none of it, and synthesized elements put something in front of the content of
a component or behind it. The one pass that takes nodes out is the last one, which leaves out
consumed `meta` elements. It looks at what the children have become : a `meta` element is consumed
for the property that it comes out with (`Theme.property?`), which a theme can give to a component.
So nothing is lost if every `meta` element that comes out with a property is empty (`Theme.Bare`).

`Theme.kept_of_yields` says that the content of a bare document is kept (`Kept`) : it is a
subsequence of what comes out, and all of it if nothing is synthesized.
-/

namespace Livery

open Text (nonEmpty?)

/-! ## Content that is kept -/

/-- Content that comes out with other content around it at most, and alone if `alone` holds. -/
structure Kept (alone : Prop) (before after : List Leaf) : Prop where
  sublist : before.Sublist after
  eq_of_alone : alone → after = before

namespace Kept

variable {alone : Prop} {before after before' after' : List Leaf}

theorem refl (alone : Prop) (l : List Leaf) : Kept alone l l :=
  ⟨List.Sublist.refl l, fun _ => rfl⟩

theorem append (h : Kept alone before after) (h' : Kept alone before' after') :
    Kept alone (before ++ before') (after ++ after') :=
  ⟨h.sublist.append h'.sublist, fun ha => by rw [h.eq_of_alone ha, h'.eq_of_alone ha]⟩

/-- Content is kept between other content, which is not there if it has to be alone. -/
theorem between (h : Kept alone before after) {front back : List Leaf}
    (hfront : alone → front = []) (hback : alone → back = []) :
    Kept alone before (front ++ after ++ back) where
  sublist := (h.sublist.trans (List.sublist_append_right _ _)).trans (List.sublist_append_left _ _)
  eq_of_alone := fun ha => by
    rw [hfront ha, hback ha, h.eq_of_alone ha, List.nil_append, List.append_nil]

/-- What is kept of the nodes of a list is kept of the list. -/
theorem flatMap {l outs : List Node}
    (h : List.Forall₂ (fun n out => Kept alone n.leaves out.leaves) l outs) :
    Kept alone (l.flatMap Node.leaves) (outs.flatMap Node.leaves) := by
  induction h with
  | nil => exact refl alone []
  | cons hn _ ih => exact hn.append ih

/-- It still is if nodes without content are left out. -/
theorem filter {drop : Node → Bool} {l outs : List Node}
    (h : List.Forall₂ (fun n out => Kept alone n.leaves out.leaves ∧
      (drop out = true → n.leaves = [])) l outs) :
    Kept alone (l.flatMap Node.leaves) ((outs.filter fun n => !drop n).flatMap Node.leaves) := by
  induction h with
  | nil => exact refl alone []
  | @cons n out _ _ hn _ ih =>
    rw [List.flatMap_cons]
    cases hdrop : drop out with
    | true => rwa [List.filter_cons_of_neg (by simp [hdrop]), hn.2 hdrop]
    | false =>
      rw [List.filter_cons_of_pos (by simp [hdrop]), List.flatMap_cons]
      exact hn.1.append ih

end Kept

/-! ## The passes over the children -/

theorem Rune.leaves_labelled (r : Rune) (n : Node) : (r.labelled n).leaves = n.leaves := by
  cases n with
  | element e =>
    rw [r.labelled_element, Node.leaves_element, Node.leaves_element, r.children_relabelled]
  | _ => rw [r.labelled_of_not_element rfl]

theorem Rune.leaves_wrapped (r : Rune) (l : List Node) :
    (r.wrapped l).flatMap Node.leaves = l.flatMap Node.leaves :=
  r.flatMap_wrapped (fun w l => by rw [Node.leaves_element, w.children_around]) l

namespace Theme

variable {t : Theme}

theorem leaves_marked (block : String) (n : Node) : (t.marked block n).leaves = n.leaves := by
  refine marked_induct block (motive := fun n m => m.leaves = n.leaves) (fun _ => rfl) ?_ n
  intro e value _ ih
  rw [Node.leaves_element, Node.leaves_element, List.flatMap_map]
  exact List.flatMap_congr ih

/-! ## Bare documents -/

/-- Every `meta` element that comes out with a property is empty. -/
def Bare (t : Theme) (n : Node) : Prop :=
  ∀ e ∈ n.elements, e.name = "meta" → (t.property? e).isSome = true → e.children = []

theorem bare_array_iff {nodes : List Node} : t.Bare (.array nodes) ↔ ∀ n ∈ nodes, t.Bare n := by
  simp only [Bare, Node.elements_array, List.mem_flatMap, forall_exists_index, and_imp]
  exact ⟨fun h n hn e he => h e n hn he, fun h e n hn he => h n hn e he⟩

theorem bare_element_iff {e : Element} :
    t.Bare (.element e) ↔
      (e.name = "meta" → (t.property? e).isSome = true → e.children = []) ∧
        ∀ n ∈ e.children, t.Bare n := by
  simp only [Bare, Node.elements_element, List.forall_mem_cons, List.mem_flatMap,
    forall_exists_index, and_imp]
  exact and_congr_right fun _ => ⟨fun h n hn e he => h e n hn he, fun h e n hn he => h n hn e he⟩

theorem Bare.labelled {n : Node} (h : t.Bare n) (r : Rune) : t.Bare (r.labelled n) := by
  cases n with
  | element e =>
    rw [r.labelled_element, bare_element_iff, property?_relabelled, r.name_relabelled,
      r.children_relabelled]
    exact bare_element_iff.mp h
  | _ => rwa [r.labelled_of_not_element rfl]

/-- Nothing is consumed for a content wrapper : it has no property. -/
theorem bare_wrapped (r : Rune) {l : List Node} (h : ∀ n ∈ l, t.Bare n) :
    ∀ n ∈ r.wrapped l, t.Bare n := by
  refine r.forall_wrapped (fun w l h => bare_element_iff.mpr ⟨fun _ hp => ?_, h⟩) h
  rw [property?_around] at hp
  cases hp

theorem property?_classed (e : Element) (value : String) (l : List Node) :
    t.property? { e.withAttr "class" value with children := l } = t.property? e := by
  have hattr (key : String) (hkey : key ≠ "class") :
      ({ e.withAttr "class" value with children := l } : Element).attr? key = e.attr? key := by
    simp [Element.attr?, Element.withAttr, Dict.get?_insert, hkey]
  rw [property?, property?, hattr _ (by decide), runeOf?_congr (hattr _ (by decide))]

theorem Bare.marked {n : Node} (block : String) (h : t.Bare n) : t.Bare (t.marked block n) := by
  refine marked_induct block (motive := fun n m => t.Bare n → t.Bare m) (fun _ h => h) ?_ n h
  intro e value _ ih h
  obtain ⟨hempty, hbelow⟩ := bare_element_iff.mp h
  rw [bare_element_iff, property?_classed]
  refine ⟨fun hname hp => ?_, fun m hm => ?_⟩
  · rw [hempty hname hp, List.map_nil]
  · obtain ⟨n, hn, rfl⟩ := List.mem_map.mp hm
    exact ih n hn (hbelow n hn)

/-- A bare node that is left out had no content. -/
theorem leaves_eq_nil_of_consumes (ht : t.HookFree) {r : Rune} {reach within : Option String}
    {n out : Node} (hn : t.Bare n) (h : t.Yields within (t.markedBy reach n) out)
    (hout : r.consumes out = true) : n.leaves = [] := by
  obtain ⟨e, rfl, hmeta, hproperty⟩ := exists_meta_of_consumes ht h hout
  rw [Node.leaves_element, (bare_element_iff.mp hn).1 hmeta hproperty, List.flatMap_nil]

/-! ## The walk keeps the content -/

/-- No component type has elements synthesized. -/
def ScaffoldFree (t : Theme) : Prop := ∀ r ∈ t.runes.values, r.scaffold.entries = []

theorem ScaffoldFree.synthesized_eq_nil (hfree : t.ScaffoldFree) {type : String} {r : Rune}
    (hr : t.runes.get? type = some r) (modifiers : Dict String) (before : Bool) :
    r.synthesized modifiers before = [] := by
  rw [Rune.synthesized, hfree r (t.runes.mem_values_of_get? hr)]
  rfl

/-- What is walked for the children of a component : labelled, inside the content wrapper, with
element classes. -/
def prepare (t : Theme) (r : Rune) (children : List Node) : List Node :=
  (r.wrapped (children.map r.labelled)).map (t.marked (t.blockClass r))

theorem leaves_prepare (r : Rune) (children : List Node) :
    (t.prepare r children).flatMap Node.leaves = children.flatMap Node.leaves := by
  simp only [prepare, List.flatMap_map, leaves_marked, r.leaves_wrapped, r.leaves_labelled]

theorem bare_prepare (r : Rune) {children : List Node} (h : ∀ n ∈ children, t.Bare n) :
    ∀ n ∈ t.prepare r children, t.Bare n := by
  have hlabelled : ∀ n ∈ children.map r.labelled, t.Bare n := by
    intro m hm
    obtain ⟨n, hn, rfl⟩ := List.mem_map.mp hm
    exact (h n hn).labelled r
  intro m hm
  obtain ⟨n, hn, rfl⟩ := List.mem_map.mp hm
  exact (bare_wrapped r hlabelled n hn).marked (t.blockClass r)

/-- The content of a component is kept between that of its synthesized elements. -/
theorem kept_dressed (ht : t.HookFree) {within : Option String} {e : Element} {type : String}
    {r : Rune} {walked : List Node} (he : t.runeOf? e = some (type, r))
    (hbare : t.Bare (.element e))
    (h : List.Forall₂ (fun n out => t.Yields (some type) n out ∧
      (t.Bare n → Kept t.ScaffoldFree n.leaves out.leaves)) (t.prepared r e) walked) :
    Kept t.ScaffoldFree (Node.element e).leaves
      (Node.element (t.dressed type r within e walked)).leaves := by
  obtain ⟨front, middle, back, rfl, hfront, hmiddle, hback⟩ := exists_parts_of_prepared h
  rw [← prepare] at hmiddle
  have hout : (Node.element (t.dressed type r within e (front ++ middle ++ back))).leaves =
      (front.filter fun n => !r.consumes n).flatMap Node.leaves ++
        (middle.filter fun n => !r.consumes n).flatMap Node.leaves ++
        (back.filter fun n => !r.consumes n).flatMap Node.leaves := by
    rw [Node.leaves_element, dressed, ht.hook_eq_none he, List.filter_append, List.filter_append,
      List.flatMap_append, List.flatMap_append]
  have hmiddle' : Kept t.ScaffoldFree (Node.element e).leaves
      ((middle.filter fun n => !r.consumes n).flatMap Node.leaves) := by
    rw [Node.leaves_element, ← leaves_prepare (t := t) r]
    have hbelow := bare_prepare r (bare_element_iff.mp hbare).2
    refine Kept.filter (((List.forall₂_and_left _ _).mpr ⟨hbelow, hmiddle⟩).imp ?_)
    rintro n out ⟨hn, hy, hkept⟩
    have hunmarked : t.Yields (some type) (t.markedBy none n) out := hy
    exact ⟨hkept hn, leaves_eq_nil_of_consumes ht hn hunmarked⟩
  have hr := get?_of_runeOf? he
  rw [hout]
  refine hmiddle'.between (fun hfree => ?_) (fun hfree => ?_)
  · rw [hfree.synthesized_eq_nil hr] at hfront
    cases hfront
    rfl
  · rw [hfree.synthesized_eq_nil hr] at hback
    cases hback
    rfl

/-- The content of a bare document is kept in its dressed form. -/
theorem kept_of_yields (ht : t.HookFree) {within : Option String} {n out : Node}
    (h : t.Yields within n out) : t.Bare n → Kept t.ScaffoldFree n.leaves out.leaves := by
  have below {within : Option String} {l outs : List Node}
      (h : List.Forall₂ (fun n out => t.Yields within n out ∧
        (t.Bare n → Kept t.ScaffoldFree n.leaves out.leaves)) l outs) (hl : ∀ n ∈ l, t.Bare n) :
      Kept t.ScaffoldFree (l.flatMap Node.leaves) (outs.flatMap Node.leaves) :=
    Kept.flatMap (((List.forall₂_and_left _ _).mpr ⟨hl, h⟩).imp fun _ _ hn => hn.2.2 hn.1)
  refine h.induct ?leaf ?array ?plain ?component
  case leaf =>
    intro within n _ _
    exact Kept.refl _ _
  case array =>
    intro within nodes outs ih hbare
    rw [Node.leaves_array, Node.leaves_array]
    exact below ih (bare_array_iff.mp hbare)
  case plain =>
    intro within e outs _ ih hbare
    rw [Node.leaves_element, Node.leaves_element]
    exact below ih (bare_element_iff.mp hbare).2
  case component =>
    intro within e type r walked he ih hbare
    exact kept_dressed ht he hbare ih

/--
A theme without hooks loses no content of a document in which `meta` elements have no children : the
texts and numbers of the document are a subsequence of those that come out. If no component type has
elements synthesized then they are all that comes out, and the text is the same.
-/
theorem content_kept {t : Theme} (ht : t.HookFree) {within : Option String} {n out : Node}
    (hmeta : ∀ e ∈ n.elements, e.name = "meta" → e.children = [])
    (h : t.transform within n = some out) :
    n.leaves.Sublist out.leaves ∧
      ((∀ r ∈ t.runes.values, r.scaffold.entries = []) →
        out.leaves = n.leaves ∧ out.textContent = n.textContent) := by
  have hkept := kept_of_yields ht (transform_eq_some_iff.mp h) fun e he hname _ => hmeta e he hname
  refine ⟨hkept.sublist, fun hfree => ?_⟩
  have hleaves := hkept.eq_of_alone hfree
  exact ⟨hleaves, by rw [Node.textContent, Node.textContent, hleaves]⟩

end Theme

/-- The kind of a hint is taken out of it, and its text stays. -/
theorem content_kept_hint :
    hintTheme.HookFree ∧
    (∀ e ∈ (Node.element (hint [kind, .text "a"])).elements, e.name = "meta" → e.children = []) ∧
    hintTheme.transform none (.element (hint [kind, .text "a"])) = some (dressedHint [.text "a"]) ∧
    (∀ r ∈ hintTheme.runes.values, r.scaffold.entries = []) ∧
    (dressedHint [.text "a"]).leaves = (Node.element (hint [kind, .text "a"])).leaves ∧
    (dressedHint [.text "a"]).textContent =
      (Node.element (hint [kind, .text "a"])).textContent := by
  have hmeta : ∀ e ∈ (Node.element (hint [kind, .text "a"])).elements,
      e.name = "meta" → e.children = [] := by
    intro e he hname
    have helements : (Node.element (hint [kind, .text "a"])).elements =
        [hint [kind, .text "a"], ⟨"meta", .ofList [("property", "kind")], []⟩] := by cbv
    rw [helements, List.mem_pair] at he
    rcases he with rfl | rfl
    · exact absurd hname (by decide)
    · rfl
  have hdressed : hintTheme.transform none (.element (hint [kind, .text "a"])) =
      some (dressedHint [.text "a"]) := Theme.transform_eq_some_iff.mpr ⟨3, by cbv⟩
  have hfree : ∀ r ∈ hintTheme.runes.values, r.scaffold.entries = [] := by
    intro r hr
    rcases List.mem_cons.mp hr with rfl | hr
    · rfl
    · rw [List.mem_singleton.mp hr]
      rfl
  obtain ⟨-, hcontent⟩ := Theme.content_kept hookFree_hintTheme hmeta hdressed
  exact ⟨hookFree_hintTheme, hmeta, hdressed, hfree, hcontent hfree⟩

end Livery
