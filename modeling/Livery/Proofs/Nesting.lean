import Mathlib
import Livery.Proofs.Walk

/-!
# Components inside components

The work on a component touches its children in several passes : they are labelled, wrapped,
surrounded by synthesized elements, marked with element classes and walked. None of the passes
reaches into a component that lies below. `Theme.nearest` lists the components nearest below a node,
with no component in between, and `Theme.graft` puts other nodes in their places.

`yields_graft` says that the dressed form of any node is the node itself with the dressed forms of
its nearest components grafted in, and `nearest_marked` that element classes never change a
component, by the induction on what gets such a class (`marked_induct`). `nearestAll_prepared` finds
the components that are walked below a component : those of the synthesized elements, and those of
its own children, a child with the label it was given.
-/

namespace Livery

open Text (nonEmpty?)

/-- A content wrapper around some nodes. -/
def ContentWrapper.around (w : ContentWrapper) (l : List Node) : Element :=
  ⟨w.tag, (∅ : Attrs).insert labelKey w.label, l⟩

@[simp] theorem ContentWrapper.children_around (w : ContentWrapper) (l : List Node) :
    (w.around l).children = l := rfl

/-- A class is no type. -/
theorem Element.typeOf?_classed (e : Element) (value : String) (l : List Node) :
    ({ e.withAttr "class" value with children := l } : Element).typeOf? = e.typeOf? := by
  simp [typeOf?, attr?, withAttr, Dict.get?_insert, typeofKey]

theorem ContentWrapper.typeOf?_around (w : ContentWrapper) (l : List Node) :
    (w.around l).typeOf? = none := by
  rw [around, Element.typeOf?, Element.attr?, Dict.get?_insert]
  rfl

/-! ## Labels -/

namespace Rune

/-- The label that a child gets : the one for its tag name or else its property, unless it has a
label already. -/
def newLabel? (r : Rune) (e : Element) : Option String :=
  if (nonEmpty? e.label?).isSome then none
  else nonEmpty? ((r.autoLabel.get? e.name).or
    ((e.attr? "property").bind fun property => r.autoLabel.get? property))

/-- A child element with the label that it gets, if it gets one. -/
def relabelled (r : Rune) (e : Element) : Element :=
  match r.newLabel? e with
  | some label => e.withAttr labelKey label
  | none => e

theorem labelled_element (r : Rune) (e : Element) :
    r.labelled (.element e) = .element (r.relabelled e) := by
  simp only [labelled, relabelled, newLabel?]
  generalize nonEmpty? ((r.autoLabel.get? e.name).or _) = label
  cases nonEmpty? e.label? <;> cases label <;> rfl

theorem labelled_of_not_element (r : Rune) {n : Node} (h : n.isElement = false) :
    r.labelled n = n := by
  cases n <;> simp_all [labelled, Node.isElement, Node.asElement?]

theorem exists_of_labelled (r : Rune) {n : Node} {e : Element} (h : r.labelled n = .element e) :
    ∃ c, n = .element c ∧ e = r.relabelled c := by
  cases n with
  | element c =>
    rw [r.labelled_element] at h
    exact ⟨c, rfl, (Node.element.inj h).symm⟩
  | _ => cases h

@[simp] theorem children_relabelled (r : Rune) (e : Element) :
    (r.relabelled e).children = e.children := by
  unfold relabelled
  split <;> rfl

@[simp] theorem name_relabelled (r : Rune) (e : Element) : (r.relabelled e).name = e.name := by
  unfold relabelled
  split <;> rfl

/-- Labels change no other attribute. -/
theorem attr?_relabelled (r : Rune) (e : Element) {key : String} (h : key ≠ labelKey) :
    (r.relabelled e).attr? key = e.attr? key := by
  unfold relabelled
  split
  · simp [Element.attr?, Element.withAttr, Dict.get?_insert, h]
  · rfl

theorem wrapped_none {r : Rune} (h : r.contentWrapper = none) (l : List Node) :
    r.wrapped l = l := by
  rw [wrapped, h]

theorem wrapped_some {r : Rune} {w : ContentWrapper} (h : r.contentWrapper = some w)
    (l : List Node) : r.wrapped l = [.element (w.around l)] := by
  rw [wrapped, h, ContentWrapper.around]

/-- What is gathered below a content wrapper is gathered from the content. -/
theorem flatMap_wrapped {β : Type} {f : Node → List β}
    (hf : ∀ (w : ContentWrapper) (l : List Node), f (.element (w.around l)) = l.flatMap f)
    (r : Rune) (l : List Node) : (r.wrapped l).flatMap f = l.flatMap f := by
  cases hw : r.contentWrapper with
  | none => rw [wrapped_none hw]
  | some w => rw [wrapped_some hw, List.flatMap_singleton, hf]

/-- What a content wrapper has if its content has it holds of the wrapped content. -/
theorem forall_wrapped {P : Node → Prop}
    (hP : ∀ (w : ContentWrapper) (l : List Node), (∀ n ∈ l, P n) → P (.element (w.around l)))
    (r : Rune) {l : List Node} (h : ∀ n ∈ l, P n) : ∀ n ∈ r.wrapped l, P n := by
  cases hw : r.contentWrapper with
  | none => rwa [wrapped_none hw]
  | some w =>
    rw [wrapped_some hw]
    exact List.forall_mem_singleton.mpr (hP w l h)

/-- A synthesized element is built from an entry. -/
theorem exists_build_of_mem_synthesized {r : Rune} {modifiers : Dict String} {before : Bool}
    {n : Node} (h : n ∈ r.synthesized modifiers before) :
    ∃ p ∈ r.scaffold.entries, ∃ x, p.2.build modifiers p.1 = some x ∧ n = .element x := by
  obtain ⟨p, hp, hbuilt⟩ := List.mem_filterMap.mp h
  split at hbuilt
  · obtain ⟨x, hx, rfl⟩ := Option.map_eq_some_iff.mp hbuilt
    exact ⟨p, hp, x, hx, rfl⟩
  · cases hbuilt

/-- The children of a component, labelled and inside the content wrapper, between the synthesized
elements. -/
def arranged (r : Rune) (e : Element) : List Node :=
  r.synthesized (r.resolve e) true ++ r.wrapped (e.children.map r.labelled) ++
    r.synthesized (r.resolve e) false

/-- What is walked below a component is synthesized or comes from its children. -/
theorem mem_arranged {r : Rune} {e : Element} {n : Node} (h : n ∈ r.arranged e) :
    (∃ before, n ∈ r.synthesized (r.resolve e) before) ∨
      n ∈ r.wrapped (e.children.map r.labelled) := by
  rcases List.mem_append.mp h with h | h
  · rcases List.mem_append.mp h with h | h
    · exact Or.inl ⟨true, h⟩
    · exact Or.inr h
  · exact Or.inl ⟨false, h⟩

end Rune

/-- The class of a labelled element as a part of a block, in front of its own classes. -/
def Element.elementClass (e : Element) (block label : String) : String :=
  match nonEmpty? (e.attr? "class") with
  | some authored => block ++ "__" ++ label ++ " " ++ authored
  | none => block ++ "__" ++ label

namespace Theme

variable {t : Theme}

/-! ## Components are known by their type -/

theorem runeOf?_congr {e e' : Element} (h : e.typeOf? = e'.typeOf?) :
    t.runeOf? e = t.runeOf? e' := by
  rw [runeOf?, runeOf?, h]

theorem isComponent_congr {e e' : Element} (h : e.typeOf? = e'.typeOf?) :
    t.isComponent e = t.isComponent e' := by
  rw [isComponent, isComponent, runeOf?_congr h]

theorem isComponent_iff {e : Element} :
    t.isComponent e = true ↔ ∃ type r, t.runeOf? e = some (type, r) := by
  simp [isComponent, Option.isSome_iff_exists]

theorem isComponent_eq_false_iff {e : Element} :
    t.isComponent e = false ↔ t.runeOf? e = none := by
  simp [isComponent]

theorem get?_of_runeOf? {e : Element} {type : String} {r : Rune}
    (h : t.runeOf? e = some (type, r)) : t.runes.get? type = some r := by
  obtain ⟨name, -, h⟩ := Option.bind_eq_some_iff.mp h
  obtain ⟨r', hr', heq⟩ := Option.map_eq_some_iff.mp h
  cases heq
  exact hr'

theorem typeOf?_of_runeOf? {e : Element} {type : String} {r : Rune}
    (h : t.runeOf? e = some (type, r)) : e.typeOf? = some type := by
  obtain ⟨name, hname, h⟩ := Option.bind_eq_some_iff.mp h
  obtain ⟨r', -, heq⟩ := Option.map_eq_some_iff.mp h
  cases heq
  exact hname

theorem runeOf?_relabelled (r : Rune) (e : Element) :
    t.runeOf? (r.relabelled e) = t.runeOf? e :=
  runeOf?_congr (r.attr?_relabelled e (by decide))

theorem isComponent_relabelled (r : Rune) (e : Element) :
    t.isComponent (r.relabelled e) = t.isComponent e :=
  isComponent_congr (r.attr?_relabelled e (by decide))

/-- Classes make and undo no components. -/
theorem isComponent_classed (e : Element) (value : String) (l : List Node) :
    t.isComponent { e.withAttr "class" value with children := l } = t.isComponent e :=
  isComponent_congr (e.typeOf?_classed value l)

/-- Whether a node is no component. -/
def Plain (t : Theme) (n : Node) : Prop := ∀ e, n = .element e → t.isComponent e = false

/-! ## The nearest components -/

mutual

/-- The components nearest below a node, in document order; a component stands for itself. -/
def nearest (t : Theme) : Node → List Element
  | .array nodes => nearestAll t nodes
  | .element ⟨name, attrs, children⟩ =>
    if t.isComponent ⟨name, attrs, children⟩ then [⟨name, attrs, children⟩]
    else nearestAll t children
  | _ => []

/-- The components nearest below the nodes of a list. -/
def nearestAll (t : Theme) : List Node → List Element
  | [] => []
  | n :: rest => nearest t n ++ nearestAll t rest

end

theorem nearestAll_eq (t : Theme) : ∀ l : List Node, t.nearestAll l = l.flatMap t.nearest
  | [] => rfl
  | n :: rest => congrArg (t.nearest n ++ ·) (nearestAll_eq t rest)

theorem nearestAll_append (t : Theme) (l l' : List Node) :
    t.nearestAll (l ++ l') = t.nearestAll l ++ t.nearestAll l' := by
  simp [nearestAll_eq]

theorem nearest_leaf {n : Node} (h : n.isBranch = false) : t.nearest n = [] := by
  cases n <;> first | rfl | cases h

theorem nearest_array (nodes : List Node) :
    t.nearest (.array nodes) = nodes.flatMap t.nearest := nearestAll_eq t nodes

theorem nearest_component {e : Element} (h : t.isComponent e = true) :
    t.nearest (.element e) = [e] := by
  obtain ⟨name, attrs, children⟩ := e
  exact if_pos h

theorem nearest_plain {e : Element} (h : t.isComponent e = false) :
    t.nearest (.element e) = e.children.flatMap t.nearest := by
  obtain ⟨name, attrs, children⟩ := e
  exact (if_neg (Bool.eq_false_iff.mp h)).trans (nearestAll_eq t children)

theorem Plain.nearest_eq {n : Node} (h : t.Plain n) :
    t.nearest n = n.contents.flatMap t.nearest := by
  cases n with
  | array nodes => exact nearest_array nodes
  | element e => exact nearest_plain (h e rfl)
  | _ => rfl

/-- Induction on the way up from a nearest component, along nodes that are no components. -/
theorem nearest_induct {motive : Node → Prop} {b : Element}
    (here : t.isComponent b = true → motive (.element b))
    (below : ∀ n m, t.Plain n → m ∈ n.contents → motive m → motive n) {n : Node}
    (h : b ∈ t.nearest n) : motive n := by
  have step : ∀ n, t.Plain n → (∀ m ∈ n.contents, b ∈ t.nearest m → motive m) →
      b ∈ t.nearest n → motive n := by
    intro n hp ih hb
    rw [hp.nearest_eq, List.mem_flatMap] at hb
    obtain ⟨m, hm, hb⟩ := hb
    exact below n m hp hm (ih m hm hb)
  induction n using Node.induct with
  | leaf n hn => simp [nearest_leaf hn] at h
  | array nodes ih => exact step _ (fun e he => by cases he) ih h
  | element e ih =>
    cases hc : t.isComponent e with
    | true =>
      rw [nearest_component hc, List.mem_singleton] at h
      subst h
      exact here hc
    | false =>
      refine step _ (fun x hx => ?_) ih h
      cases hx
      exact hc

/-! ## Grafts -/

mutual

/-- A node with other nodes in the places of its nearest components. -/
def graft (t : Theme) (f : Element → Node) : Node → Node
  | .array nodes => .array (graftAll t f nodes)
  | .element ⟨name, attrs, children⟩ =>
    if t.isComponent ⟨name, attrs, children⟩ then f ⟨name, attrs, children⟩
    else .element ⟨name, attrs, graftAll t f children⟩
  | n => n

/-- `graft` for the nodes of a list. -/
def graftAll (t : Theme) (f : Element → Node) : List Node → List Node
  | [] => []
  | n :: rest => graft t f n :: graftAll t f rest

end

theorem graftAll_eq (t : Theme) (f : Element → Node) :
    ∀ l : List Node, t.graftAll f l = l.map (t.graft f)
  | [] => by simp [graftAll]
  | n :: rest => by simp [graftAll, graftAll_eq t f rest]

theorem graft_leaf (f : Element → Node) {n : Node} (h : n.isBranch = false) : t.graft f n = n := by
  cases n <;> simp_all [graft, Node.isBranch]

theorem graft_array (f : Element → Node) (nodes : List Node) :
    t.graft f (.array nodes) = .array (nodes.map (t.graft f)) := by
  rw [graft, graftAll_eq]

theorem graft_component (f : Element → Node) {e : Element} (h : t.isComponent e = true) :
    t.graft f (.element e) = f e := by
  obtain ⟨name, attrs, children⟩ := e
  rw [graft, if_pos h]

theorem graft_plain (f : Element → Node) {e : Element} (h : t.isComponent e = false) :
    t.graft f (.element e) = .element { e with children := e.children.map (t.graft f) } := by
  obtain ⟨name, attrs, children⟩ := e
  rw [graft, if_neg (by simp [h]), graftAll_eq]

/-! ## Grafting along a walk -/

/-- `f` gives every component of a list its dressed form inside a component of type `within`, which
is the parent that its context modifiers and its hook see. -/
def Dresses (t : Theme) (within : Option String) (f : Element → Node) (l : List Element) : Prop :=
  ∀ b ∈ l, t.Yields within (.element b) (f b) ∧
    ∃ type r walked, t.runeOf? b = some (type, r) ∧
      f b = .element (t.dressed type r within b walked)

/-- The dressed form of a component, if it has one. -/
noncomputable def form (t : Theme) (within : Option String) (e : Element) : Node :=
  Classical.epsilon (t.Yields within (.element e))

theorem form_eq {within : Option String} {e : Element} {out : Node}
    (h : t.Yields within (.element e) out) : t.form within e = out :=
  Yields.unique (Classical.epsilon_spec ⟨out, h⟩) h

theorem Dresses.append {within : Option String} {f : Element → Node} {l l' : List Element}
    (h : t.Dresses within f l) (h' : t.Dresses within f l') : t.Dresses within f (l ++ l') := by
  intro b hb
  rcases List.mem_append.mp hb with hb | hb
  · exact h b hb
  · exact h' b hb

/-- What holds of the nodes of a list one by one, for the list. -/
theorem dresses_graft_of_forall₂ {within : Option String} {l outs : List Node}
    (h : List.Forall₂ (fun n out => t.Yields within n out ∧
      t.Dresses within (t.form within) (t.nearest n) ∧ out = t.graft (t.form within) n) l outs) :
    t.Dresses within (t.form within) (l.flatMap t.nearest) ∧
      outs = l.map (t.graft (t.form within)) := by
  induction h with
  | nil => exact ⟨fun b hb => by simp at hb, rfl⟩
  | cons hn _ ih =>
    obtain ⟨-, hd, rfl⟩ := hn
    obtain ⟨hds, rfl⟩ := ih
    rw [List.flatMap_cons, List.map_cons]
    exact ⟨hd.append hds, rfl⟩

/-- The dressed form of a node is the node with the dressed forms of its nearest components. -/
theorem yields_graft {within : Option String} {n out : Node} (h : t.Yields within n out) :
    t.Dresses within (t.form within) (t.nearest n) ∧ out = t.graft (t.form within) n := by
  refine h.induct ?leaf ?array ?plain ?component
  case leaf =>
    intro within n hn
    rw [nearest_leaf hn, graft_leaf _ hn]
    exact ⟨fun b hb => by simp at hb, rfl⟩
  case array =>
    intro within nodes outs ih
    obtain ⟨hd, rfl⟩ := dresses_graft_of_forall₂ ih
    rw [nearest_array, graft_array]
    exact ⟨hd, rfl⟩
  case plain =>
    intro within e outs he ih
    obtain ⟨hd, rfl⟩ := dresses_graft_of_forall₂ ih
    rw [← isComponent_eq_false_iff] at he
    rw [nearest_plain he, graft_plain _ he]
    exact ⟨hd, rfl⟩
  case component =>
    intro within e type r walked he ih
    have hy : t.Yields within (.element e) (.element (t.dressed type r within e walked)) :=
      (yields_component he).2 ⟨walked, ih.imp fun _ _ h => h.1, rfl⟩
    have hc := isComponent_iff.2 ⟨type, r, he⟩
    rw [nearest_component hc, graft_component _ hc, form_eq hy]
    refine ⟨fun b hb => ?_, rfl⟩
    rw [List.mem_singleton] at hb
    subst hb
    rw [form_eq hy]
    exact ⟨hy, type, r, walked, he, rfl⟩

/-! ## The passes over the children of a component -/

theorem marked_of_not_element (block : String) {n : Node} (h : n.isElement = false) :
    t.marked block n = n := by
  cases n <;> first | rfl | cases h

theorem markedChildren_eq (t : Theme) (block : String) :
    ∀ l : List Node, t.markedChildren block l = l.map (t.marked block)
  | [] => rfl
  | n :: rest => congrArg (t.marked block n :: ·) (markedChildren_eq t block rest)

theorem marked_component (block : String) {e : Element} (h : t.isComponent e = true) :
    t.marked block (.element e) = .element e := by
  obtain ⟨name, attrs, children⟩ := e
  exact if_pos h

theorem marked_unlabelled (block : String) {e : Element} (h : nonEmpty? e.label? = none) :
    t.marked block (.element e) = .element e := by
  obtain ⟨name, attrs, children⟩ := e
  rw [marked]
  split
  · rfl
  · rw [h]

theorem marked_labelled (block : String) {e : Element} {label : String}
    (hc : t.isComponent e = false) (h : nonEmpty? e.label? = some label) :
    t.marked block (.element e) =
      .element { e.withAttr "class" (e.elementClass block label) with
        children := e.children.map (t.marked block) } := by
  obtain ⟨name, attrs, children⟩ := e
  rw [marked, if_neg (by simp [hc]), h, ← markedChildren_eq]
  rfl

/-- Element classes leave a node as it is, or they give an element that is no component a class and
go on with its children. -/
theorem marked_induct (block : String) {motive : Node → Node → Prop} (kept : ∀ n, motive n n)
    (classed : ∀ (e : Element) (value : String), t.isComponent e = false →
      (∀ n ∈ e.children, motive n (t.marked block n)) →
        motive (.element e) (.element { e.withAttr "class" value with
          children := e.children.map (t.marked block) }))
    (n : Node) : motive n (t.marked block n) := by
  induction n using Node.induct with
  | leaf n hn =>
    rw [marked_of_not_element block (Node.isElement_of_isBranch hn)]
    exact kept n
  | array nodes =>
    rw [marked_of_not_element block rfl]
    exact kept _
  | element e ih =>
    cases hc : t.isComponent e with
    | true =>
      rw [marked_component block hc]
      exact kept _
    | false =>
      cases hl : nonEmpty? e.label? with
      | none =>
        rw [marked_unlabelled block hl]
        exact kept _
      | some label =>
        rw [marked_labelled block hc hl]
        exact classed e _ hc ih

/-- Element classes change no component, at any depth. -/
theorem nearest_marked (block : String) (n : Node) :
    t.nearest (t.marked block n) = t.nearest n := by
  refine marked_induct block (motive := fun n m => t.nearest m = t.nearest n) (fun _ => rfl) ?_ n
  intro e value hc ih
  rw [nearest_plain hc, nearest_plain]
  · simpa only [List.flatMap_map] using List.flatMap_congr ih
  · rw [isComponent_classed, hc]

/-- The content wrapper is no component. -/
theorem isComponent_around (t : Theme) (w : ContentWrapper) (l : List Node) :
    t.isComponent (w.around l) = false := by
  rw [isComponent_eq_false_iff, runeOf?, w.typeOf?_around]
  rfl

theorem nearestAll_wrapped (r : Rune) (l : List Node) :
    t.nearestAll (r.wrapped l) = t.nearestAll l := by
  rw [nearestAll_eq, nearestAll_eq]
  refine r.flatMap_wrapped (fun w l => ?_) l
  rw [nearest_plain (isComponent_around t w l), w.children_around]

/-- The components nearest below a component at one of its children : a child that is a component
itself stands there with the label that it gets. -/
def nearestBelow (t : Theme) (r : Rune) : Node → List Element
  | .element b => if t.isComponent b then [r.relabelled b] else t.nearest (.element b)
  | n => t.nearest n

theorem nearest_labelled (r : Rune) (n : Node) :
    t.nearest (r.labelled n) = t.nearestBelow r n := by
  cases n with
  | element b =>
    rw [r.labelled_element, nearestBelow]
    split
    · rename_i hb
      exact nearest_component (by rw [isComponent_relabelled, hb])
    · rename_i hb
      rw [Bool.not_eq_true] at hb
      rw [nearest_plain hb, nearest_plain (by rw [isComponent_relabelled, hb]),
        r.children_relabelled]
  | _ => rw [r.labelled_of_not_element rfl]; rfl

/-- The components that are walked right below a component. -/
theorem nearestAll_prepared (r : Rune) (e : Element) :
    t.nearestAll (t.prepared r e) =
      t.nearestAll (r.synthesized (r.resolve e) true) ++ e.children.flatMap (t.nearestBelow r) ++
        t.nearestAll (r.synthesized (r.resolve e) false) := by
  have hmarked : t.nearestAll (t.prepared r e) = t.nearestAll (r.arranged e) := by
    rw [nearestAll_eq, nearestAll_eq, prepared, ← Rune.arranged, List.flatMap_map]
    exact List.flatMap_congr fun n _ => nearest_marked _ n
  rw [hmarked, Rune.arranged, nearestAll_append, nearestAll_append, nearestAll_wrapped,
    nearestAll_eq t (e.children.map r.labelled), List.flatMap_map]
  simp only [nearest_labelled]

/-- What is grafted into a node that is no component does not decide whether it is consumed. -/
theorem consumes_graft (r : Rune) (f : Element → Node) (n : Node) :
    r.consumes (t.graft f n) =
      match n with
      | .element b => if t.isComponent b then r.consumes (f b) else r.consumes n
      | _ => false := by
  cases n with
  | array nodes => rw [graft_array]; rfl
  | element b =>
    cases hb : t.isComponent b with
    | true => simp [graft_component f hb, hb]
    | false => simp [graft_plain f hb, hb, Rune.consumes, Element.attr?]
  | _ => rw [graft_leaf f rfl]; rfl

/-! ## Components stand alone -/

/--
A document is dressed around its components. In the dressed form of any node the components nearest
below stand as they are dressed on their own in the same context, and nothing else differs from the
node. In the output of a component without a hook the components nearest below stand as they are
dressed on their own inside its type : those of the synthesized elements, and those of its children,
a child with the label that the component gives it. The nodes between are the prepared ones. Only
those right below the root can be left out, as consumed `meta` elements : a component by what it is
dressed to, and any other element, with the components inside it, by what it is.
-/
theorem components_stand_alone {t : Theme} {within : Option String} {n out : Node}
    (h : t.Yields within n out) :
    (∃ f, t.Dresses within f (t.nearest n) ∧ out = t.graft f n) ∧
    ∀ a type r, n = .element a → t.runeOf? a = some (type, r) → r.hook = none →
      t.nearestAll (t.prepared r a) =
        t.nearestAll (r.synthesized (r.resolve a) true) ++ a.children.flatMap (t.nearestBelow r) ++
          t.nearestAll (r.synthesized (r.resolve a) false) ∧
      ∃ f, t.Dresses (some type) f (t.nearestAll (t.prepared r a)) ∧
        out = .element ⟨a.name, r.rootAttrs type (t.blockClass r) within a,
          ((t.prepared r a).map (t.graft f)).filter fun n => !r.consumes n⟩ ∧
        ∀ m ∈ t.prepared r a, r.consumes (t.graft f m) =
          match m with
          | .element b => if t.isComponent b then r.consumes (f b) else r.consumes m
          | _ => false := by
  refine ⟨⟨t.form within, yields_graft h⟩, ?_⟩
  rintro a type r rfl ha hr
  refine ⟨nearestAll_prepared r a, t.form (some type), ?_⟩
  obtain ⟨walked, hwalked, rfl⟩ := (yields_component ha).1 h
  obtain ⟨hd, rfl⟩ := dresses_graft_of_forall₂ (hwalked.imp fun n out hy => ⟨hy, yields_graft hy⟩)
  rw [← nearestAll_eq] at hd
  refine ⟨hd, ?_, fun m _ => consumes_graft r _ m⟩
  rw [dressed, hr]

end Theme

/-- Hints label their `aside` children and read their kind from a `meta` child; notes inside hints
have a class for that. -/
def hintTheme : Theme where
  classPrefix := "rf"
  runes := .ofList
    [("Hint", { block := "hint", modifiers := .ofList [("kind", {})],
                autoLabel := .ofList [("aside", "side")] }),
     ("Note", { block := "note", contextModifiers := .ofList [("Hint", "in-hint")] })]

/-- A note, with or without a label. -/
def note (label : Option String) : Element :=
  ⟨"aside", .ofList (("typeof", "Note") :: label.toList.map (labelKey, ·)), []⟩

/-- A hint around some nodes. -/
def hint (children : List Node) : Element := ⟨"section", .ofList [("typeof", "Hint")], children⟩

/-- A dressed note inside a hint, without a label or with one. -/
def dressedNote (label : Option String) : Node :=
  .element ⟨"aside", .ofList (("typeof", "Note") :: label.toList.map (labelKey, ·) ++
    [("class", "rf-note rf-note--in-hint"), ("data-rune", "note")]), []⟩

/-- A dressed hint around dressed nodes. -/
def dressedHint (children : List Node) : Node :=
  .element ⟨"section", .ofList [("typeof", "Hint"), ("class", "rf-hint"), ("data-rune", "hint")],
    children⟩

/-- A note right below a hint gets its label, and one below a wrapper and a list of siblings gets
none. -/
theorem components_stand_alone_hint :
    hintTheme.Yields none
      (.element (hint [.element (note none), .element ⟨"div", ∅, [.array [.element (note none)]]⟩]))
      (dressedHint
        [dressedNote (some "side"), .element ⟨"div", ∅, [.array [dressedNote none]]⟩]) ∧
    ∃ f, hintTheme.Dresses (some "Hint") f [note (some "side"), note none] := by
  have h : hintTheme.Yields none
      (.element (hint [.element (note none), .element ⟨"div", ∅, [.array [.element (note none)]]⟩]))
      (dressedHint
        [dressedNote (some "side"), .element ⟨"div", ∅, [.array [dressedNote none]]⟩]) :=
    ⟨5, by cbv⟩
  obtain ⟨-, f, hf, -⟩ := (Theme.components_stand_alone h).2 _ "Hint" _ rfl rfl rfl
  exact ⟨h, f, hf⟩

/-- A component inside a consumed `meta` child goes with it, whatever it is dressed to. -/
theorem component_lost_in_consumed_meta :
    note none ∈ hintTheme.nearestAll
      (hint [.element ⟨"meta", .ofList [("property", "kind")], [.element (note none)]⟩]).children ∧
    hintTheme.Yields (some "Hint") (.element (note none)) (dressedNote none) ∧
    (∀ r, hintTheme.runes.get? "Hint" = some r → r.consumes (dressedNote none) = false) ∧
    hintTheme.Yields none
      (.element (hint
        [.element ⟨"meta", .ofList [("property", "kind")], [.element (note none)]⟩]))
      (dressedHint []) := by
  refine ⟨?_, ⟨2, by cbv⟩, ?_, ⟨3, by cbv⟩⟩
  · exact List.mem_singleton.mpr rfl
  · rintro r hr
    cases hr
    rfl

end Livery
