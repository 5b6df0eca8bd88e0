import Mathlib.Data.List.Induction
import Livery.Proofs.Nesting

/-!
# The reach of element classes

A component gives element classes to its labelled children and along every chain of labelled
elements below them. This happens again for every component inside it, on nodes that earlier passes
have labelled, wrapped and synthesized. To say where a class comes from, `Theme.stage` walks a
document without giving any element class and keeps what each node is : a `Scene` is the dressed
document in which every part, an element that is no component, is as it was before, and every
component carries the class of its block.

`Scene.shown` puts the element classes in, in one pass from the top : `Scene.pass` is the block that
reaches the nodes below a node. `walk_markedBy` says that the walk of marked nodes is this pass over
the scene, and `reaching_eq_some_iff` that a block reaches a place exactly if it is the block of the
nearest component above it and all nodes between are labelled parts.
-/

namespace Livery

open Text (nonEmpty?)

/-! ## Places in a document -/

namespace Node

/-- The node at a place, which is given by the index to take at each level. -/
def at? : List ℕ → Node → Option Node
  | [], n => some n
  | i :: path, n => n.contents[i]?.bind (at? path)

end Node

/-! ## Scenes -/

/-- A dressed document before any element class is set. -/
inductive Scene
  /-- A text, a number or an absent node. -/
  | leaf (n : Node) (h : n.isBranch = false)
  | array (items : List Scene)
  /-- An element that is no component, as it was before. -/
  | part (e : Element) (items : List Scene)
  /-- A component : the class of its block, and its root as it comes out. -/
  | component (block : String) (root : Element) (items : List Scene)

namespace Scene

/-- The scenes right below a scene. -/
def contents : Scene → List Scene
  | .leaf _ _ => []
  | .array items => items
  | .part _ items => items
  | .component _ _ items => items

/-- The scenes above a place, outermost first, and the one at it. -/
def locate? : List ℕ → Scene → Option (List Scene × Scene)
  | [], s => some ([], s)
  | i :: path, s => s.contents[i]?.bind fun c => (locate? path c).map fun p => (s :: p.1, p.2)

/-- The node that a scene is about, without what is below it. -/
def head : Scene → Node
  | .leaf n _ => n
  | .array _ => .array []
  | .part e _ => .element e
  | .component _ root _ => .element root

/-- Whether a scene is a part with a label. -/
def isLabelledPart : Scene → Bool
  | .part e _ => (nonEmpty? e.label?).isSome
  | _ => false

/-- The block whose element classes reach what is right below a scene, where `reach` is the one
whose classes reach the scene itself. -/
def pass (reach : Option String) : Scene → Option String
  | .component block _ _ => some block
  | .part e _ => if (nonEmpty? e.label?).isSome then reach else none
  | _ => none

end Scene

/-- A part with the element class of the block that reaches it, if it has a label. -/
def Element.reachedBy (e : Element) (reach : Option String) : Element :=
  match reach, nonEmpty? e.label? with
  | some block, some label => e.withAttr "class" (e.elementClass block label)
  | _, _ => e

theorem Element.name_reachedBy (e : Element) (reach : Option String) :
    (e.reachedBy reach).name = e.name := by
  unfold reachedBy
  split <;> rfl

/-- Element classes do not depend on the children. -/
theorem Element.reachedBy_children (e : Element) (reach : Option String) (l : List Node) :
    { e.reachedBy reach with children := l } =
      ({ e with children := l } : Element).reachedBy reach := by
  simp only [reachedBy, label?, attr?]
  split <;> rfl

/-- Element classes change no other attribute. -/
theorem Element.attr?_reachedBy (e : Element) (reach : Option String) {key : String}
    (h : key ≠ "class") : (e.reachedBy reach).attr? key = e.attr? key := by
  unfold reachedBy
  split
  · simp [attr?, withAttr, Dict.get?_insert, h]
  · rfl

namespace Scene

mutual

/-- The document that a scene shows where the element classes of `reach` arrive. -/
def shown (reach : Option String) : Scene → Node
  | .leaf n _ => n
  | .array items => .array (shownAll none items)
  | .part e items =>
    .element { e.reachedBy reach with children := shownAll (pass reach (.part e items)) items }
  | .component block root items => .element { root with children := shownAll (some block) items }

/-- `shown` for the scenes of a list. -/
def shownAll (reach : Option String) : List Scene → List Node
  | [] => []
  | s :: rest => shown reach s :: shownAll reach rest

end

theorem shownAll_eq (reach : Option String) :
    ∀ l : List Scene, shownAll reach l = l.map (shown reach)
  | [] => rfl
  | s :: rest => congrArg (s.shown reach :: ·) (shownAll_eq reach rest)

theorem shown_array (reach : Option String) (items : List Scene) :
    (array items).shown reach = .array (items.map (shown none)) :=
  congrArg Node.array (shownAll_eq none items)

theorem shown_part (reach : Option String) (e : Element) (items : List Scene) :
    (part e items).shown reach = .element { e.reachedBy reach with
      children := items.map (shown (pass reach (.part e items))) } :=
  congrArg (fun l => Node.element { e.reachedBy reach with children := l }) (shownAll_eq _ items)

theorem shown_component (reach : Option String) (block : String) (root : Element)
    (items : List Scene) : (component block root items).shown reach =
      .element { root with children := items.map (shown (some block)) } :=
  congrArg (fun l => Node.element { root with children := l }) (shownAll_eq _ items)

theorem contents_shown (reach : Option String) (s : Scene) :
    (s.shown reach).contents = s.contents.map (shown (s.pass reach)) := by
  cases s with
  | leaf n h => exact Node.contents_leaf h
  | array items => exact shownAll_eq none items
  | part e items => exact shownAll_eq _ items
  | component block root items => exact shownAll_eq _ items

/-- The block whose element classes reach a place, from the scenes above it. -/
def reaching (reach : Option String) (above : List Scene) : Option String :=
  above.foldl pass reach

/-- What is shown at a place is the scene there, reached by the block that gets through to it. -/
theorem at?_shown : ∀ (path : List ℕ) (reach : Option String) (s : Scene),
    (s.shown reach).at? path = (s.locate? path).map fun p => p.2.shown (reaching reach p.1)
  | [], reach, s => by simp [Node.at?, locate?, reaching]
  | i :: path, reach, s => by
    rw [Node.at?, locate?, contents_shown, List.getElem?_map]
    cases s.contents[i]? with
    | none => rfl
    | some c =>
      simp only [Option.map_some, Option.bind_some, at?_shown path (s.pass reach) c, Option.map_map]
      rfl

/-- A block gives element classes below `above` : it is the block of the nearest component, and all
scenes between are labelled parts. -/
def ReachedBy (block : String) (above : List Scene) : Prop :=
  ∃ top root items parts, above = top ++ .component block root items :: parts ∧
    ∀ s ∈ parts, s.isLabelledPart = true

/-- The last scene above a place is the component itself, or a labelled part that passes on what
reaches it. -/
theorem reachedBy_snoc {block : String} {above : List Scene} {s : Scene} :
    ReachedBy block (above ++ [s]) ↔
      (∃ root items, s = .component block root items) ∨
        s.isLabelledPart = true ∧ ReachedBy block above := by
  constructor
  · rintro ⟨top, root, items, parts, h, hparts⟩
    rcases List.eq_nil_or_concat parts with rfl | ⟨parts, s', rfl⟩
    · obtain ⟨-, hs⟩ := List.append_inj' h rfl
      exact Or.inl ⟨root, items, by simpa using hs⟩
    · rw [List.concat_eq_append, ← List.cons_append, ← List.append_assoc] at h
      obtain ⟨rfl, hs⟩ := List.append_inj' h rfl
      obtain rfl : s = s' := by simpa using hs
      exact Or.inr ⟨hparts s (by simp), top, root, items, parts, rfl,
        fun x hx => hparts x (by simp [hx])⟩
  · rintro (⟨root, items, rfl⟩ | ⟨hs, top, root, items, parts, rfl, hparts⟩)
    · exact ⟨above, root, items, [], rfl, by simp⟩
    · refine ⟨top, root, items, parts ++ [s], by simp, ?_⟩
      intro x hx
      rcases List.mem_append.mp hx with hx | hx
      · exact hparts x hx
      · rwa [List.mem_singleton.mp hx]

theorem reaching_eq_some_iff (block : String) (above : List Scene) :
    reaching none above = some block ↔ ReachedBy block above := by
  induction above using List.reverseRecOn with
  | nil => simp [reaching, ReachedBy]
  | append_singleton above s ih =>
    have hstep : reaching none (above ++ [s]) = s.pass (reaching none above) := by
      simp [reaching]
    rw [hstep, reachedBy_snoc, ← ih]
    cases s with
    | leaf n h => simp [pass, isLabelledPart]
    | array items => simp [pass, isLabelledPart]
    | part e items => simp [pass, isLabelledPart]
    | component block' root items => simp [pass, isLabelledPart]

theorem consumes_shown (r : Rune) (reach : Option String) (s : Scene) :
    r.consumes (s.shown reach) = r.consumes s.head := by
  cases s with
  | part e items =>
    have hproperty : (e.reachedBy reach).attr? "property" = e.attr? "property" :=
      e.attr?_reachedBy reach (by decide)
    simp only [Element.attr?] at hproperty
    simp only [shown_part, head, Rune.consumes, Element.attr?]
    rw [e.name_reachedBy, hproperty]
  | _ => rfl

end Scene

/-! ## Staging a document -/

namespace Theme

/-- The scene of a node inside a component of type `parent`, if the walk stays above the given
depth. -/
def stage (t : Theme) : ℕ → Option String → Node → Option Scene
  | 0, _, _ => none
  | depth + 1, parent, .array nodes => (nodes.mapM (stage t depth parent)).map .array
  | depth + 1, parent, .element e =>
    match t.runeOf? e with
    | some (type, r) =>
      ((r.arranged e).mapM (stage t depth (some type))).map fun items =>
        .component (t.blockClass r)
          { e with attrs := r.rootAttrs type (t.blockClass r) parent e }
          (items.filter fun s => !r.consumes s.head)
    | none => (e.children.mapM (stage t depth parent)).map (.part e)
  | _ + 1, _, .null => some (.leaf .null rfl)
  | _ + 1, _, .text s => some (.leaf (.text s) rfl)
  | _ + 1, _, .number x => some (.leaf (.number x) rfl)

theorem stage_array (t : Theme) (d : ℕ) (within : Option String) (nodes : List Node) :
    t.stage (d + 1) within (.array nodes) =
      (nodes.mapM (t.stage d within)).map Scene.array := rfl

theorem stage_element (t : Theme) (d : ℕ) (within : Option String) (e : Element) :
    t.stage (d + 1) within (.element e) = match t.runeOf? e with
      | some (type, r) => ((r.arranged e).mapM (t.stage d (some type))).map fun items =>
          .component (t.blockClass r)
            { e with attrs := r.rootAttrs type (t.blockClass r) within e }
            (items.filter fun s => !r.consumes s.head)
      | none => (e.children.mapM (t.stage d within)).map (Scene.part e) := rfl

theorem stage_part {t : Theme} {e : Element} (he : t.runeOf? e = none) (d : ℕ)
    (within : Option String) :
    t.stage (d + 1) within (.element e) =
      (e.children.mapM (t.stage d within)).map (Scene.part e) := by
  rw [stage_element, he]

theorem stage_component {t : Theme} {e : Element} {type : String} {r : Rune}
    (he : t.runeOf? e = some (type, r)) (d : ℕ) (within : Option String) :
    t.stage (d + 1) within (.element e) =
      ((r.arranged e).mapM (t.stage d (some type))).map fun items =>
        .component (t.blockClass r) { e with attrs := r.rootAttrs type (t.blockClass r) within e }
          (items.filter fun s => !r.consumes s.head) := by
  rw [stage_element, he]

/-- `s` is the scene of `n` inside a component of type `within`, if any. -/
def Stages (t : Theme) (within : Option String) (n : Node) (s : Scene) : Prop :=
  ∃ d, t.stage d within n = some s

/-- No component type has a hook. -/
def HookFree (t : Theme) : Prop := ∀ r ∈ t.runes.values, r.hook = none

/-- A node with the element classes of the block that reaches it, if one does. -/
def markedBy (t : Theme) : Option String → Node → Node
  | some block, n => t.marked block n
  | none, n => n

theorem HookFree.hook_eq_none {t : Theme} (ht : t.HookFree) {e : Element} {type : String} {r : Rune}
    (h : t.runeOf? e = some (type, r)) : r.hook = none :=
  ht r (t.runes.mem_values_of_get? (get?_of_runeOf? h))

theorem markedBy_none (t : Theme) : t.markedBy none = id := rfl

theorem markedBy_some (t : Theme) (block : String) : t.markedBy (some block) = t.marked block := rfl

theorem markedBy_of_not_element {t : Theme} (reach : Option String) {n : Node}
    (h : n.isElement = false) : t.markedBy reach n = n := by
  cases reach with
  | none => rfl
  | some block => exact marked_of_not_element block h

theorem markedBy_component {t : Theme} (reach : Option String) {e : Element}
    (h : t.isComponent e = true) : t.markedBy reach (.element e) = .element e := by
  cases reach with
  | none => rfl
  | some block => exact marked_component block h

/-- A part gets the class of the block that reaches it, and so does what is below, as far as the
part lets the block through. -/
theorem markedBy_part {t : Theme} (reach : Option String) {e : Element}
    (h : t.isComponent e = false) (items : List Scene) :
    t.markedBy reach (.element e) = .element { e.reachedBy reach with
      children := e.children.map (t.markedBy (Scene.pass reach (.part e items))) } := by
  cases reach with
  | none =>
    simp only [markedBy_none, Element.reachedBy, Scene.pass, ite_self, List.map_id, id_eq]
    cases e
    rfl
  | some block =>
    cases hl : nonEmpty? e.label? with
    | none =>
      rw [markedBy_some, marked_unlabelled block hl]
      simp only [Element.reachedBy, Scene.pass, hl, Option.isSome_none, Bool.false_eq_true,
        if_false, markedBy_none, List.map_id_fun, id_eq]
      cases e
      rfl
    | some label =>
      rw [markedBy, marked_labelled block h hl]
      simp [markedBy_some, Element.reachedBy, Scene.pass, hl]

/-- A walk of nodes that a block reaches is the staged scene with the element classes of the
block. -/
theorem walk_markedBy {t : Theme} (ht : t.HookFree) :
    ∀ (d : ℕ) (within reach : Option String) (n : Node),
      t.walk d within (t.markedBy reach n) = (t.stage d within n).map (Scene.shown reach)
  | 0, _, _, _ => rfl
  | d + 1, within, reach, .null => by
    rw [markedBy_of_not_element reach rfl, walk_leaf d within rfl]
    rfl
  | d + 1, within, reach, .text s => by
    rw [markedBy_of_not_element reach rfl, walk_leaf d within rfl]
    rfl
  | d + 1, within, reach, .number x => by
    rw [markedBy_of_not_element reach rfl, walk_leaf d within rfl]
    rfl
  | d + 1, within, reach, .array nodes => by
    have ih := mapM_map_option (fun n => walk_markedBy ht d within none n) nodes
    simp only [markedBy_none, id_eq] at ih
    rw [markedBy_of_not_element reach rfl, walk_array, stage_array, ih, Option.map_map, Option.map_map]
    congr 1
    funext items
    simp [Scene.shown_array]
  | d + 1, within, reach, .element e => by
    rcases t.runeOf?_cases e with he | ⟨type, r, he⟩
    · have hc := isComponent_eq_false_iff.2 he
      have hc' (l : List Node) : t.runeOf? { e.reachedBy reach with children := l } = none := by
        rw [← he]
        exact runeOf?_congr (e.attr?_reachedBy reach (by decide))
      -- how far the classes reach below does not depend on what is below
      have ih := mapM_map_option (fun n => walk_markedBy ht d within
        (Scene.pass reach (.part e [])) n) e.children
      rw [markedBy_part reach hc [], walk_plain (hc' _), stage_part he, List.mapM_map]
      simp only [Function.comp_def]
      rw [ih, Option.map_map, Option.map_map]
      congr 1
      funext items
      simp [Scene.shown_part, Scene.pass]
    · have hc := isComponent_iff.2 ⟨type, r, he⟩
      have ih := mapM_map_option (fun n => walk_markedBy ht d (some type)
        (some (t.blockClass r)) n) (r.arranged e)
      rw [markedBy_component reach hc, walk_component he, stage_component he, prepared,
        ← Rune.arranged, ← markedBy_some, List.mapM_map]
      simp only [Function.comp_def]
      rw [ih, Option.map_map, Option.map_map]
      congr 1
      funext items
      simp [dressed, ht.hook_eq_none he, Scene.shown_component, List.filter_map,
        Function.comp_def, Scene.consumes_shown]

/-! ## What the scenes are about -/

/-- The scenes right below a staged scene are staged themselves. -/
theorem Stages.of_mem_contents {t : Theme} {within : Option String} {n : Node} {s c : Scene}
    (h : t.Stages within n s) (hc : c ∈ s.contents) : ∃ within' n', t.Stages within' n' c := by
  obtain ⟨d, hd⟩ := h
  cases d with
  | zero => cases hd
  | succ d =>
    have below : ∀ {within : Option String} {l : List Node} {items : List Scene},
        l.mapM (t.stage d within) = some items → c ∈ items →
        ∃ within' n', t.Stages within' n' c := by
      intro within l items hl hmem
      obtain ⟨m, -, hm⟩ := exists_item_of_mem ((mapM_eq_some_iff _ _ _).mp hl) hmem
      exact ⟨within, m, d, hm⟩
    cases n with
    | null => cases hd; cases hc
    | text s => cases hd; cases hc
    | number x => cases hd; cases hc
    | array nodes =>
      rw [stage_array, Option.map_eq_some_iff] at hd
      obtain ⟨items, hitems, rfl⟩ := hd
      exact below hitems hc
    | element e =>
      rcases t.runeOf?_cases e with he | ⟨type, r, he⟩
      · rw [stage_part he, Option.map_eq_some_iff] at hd
        obtain ⟨items, hitems, rfl⟩ := hd
        exact below hitems hc
      · rw [stage_component he, Option.map_eq_some_iff] at hd
        obtain ⟨items, hitems, rfl⟩ := hd
        exact below hitems (List.mem_filter.mp hc).1

/-- So are the scenes at every place below. -/
theorem Stages.of_locate? {t : Theme} : ∀ {path : List ℕ} {within : Option String} {n : Node}
    {s x : Scene} {above : List Scene}, t.Stages within n s → s.locate? path = some (above, x) →
    ∃ within' n', t.Stages within' n' x
  | [], within, n, s, x, above, h, hx => by
    cases hx
    exact ⟨within, n, h⟩
  | i :: path, within, n, s, x, above, h, hx => by
    obtain ⟨c, hc, hx⟩ := Option.bind_eq_some_iff.mp hx
    obtain ⟨⟨above', x'⟩, hx', heq⟩ := Option.map_eq_some_iff.mp hx
    cases heq
    obtain ⟨within', n', hn'⟩ := h.of_mem_contents (List.mem_of_getElem? hc)
    exact hn'.of_locate? hx'

/-- A part is an element that is no component. -/
theorem Stages.of_part {t : Theme} {within : Option String} {n : Node} {e : Element}
    {items : List Scene} (h : t.Stages within n (.part e items)) : t.isComponent e = false := by
  obtain ⟨d, hd⟩ := h
  rcases d with _ | d
  · cases hd
  · cases n with
    | element e' =>
      rcases t.runeOf?_cases e' with he | ⟨type, r, he⟩
      · simp only [stage_part he, Option.map_eq_some_iff, Scene.part.injEq] at hd
        obtain ⟨items', -, rfl, -⟩ := hd
        exact isComponent_eq_false_iff.2 he
      · simp [stage_component he] at hd
    | array nodes => simp [stage_array] at hd
    | _ => cases hd

/-- A component in a scene is the root of an instance and carries the class of its block. -/
theorem Stages.of_component {t : Theme} {within : Option String} {n : Node} {block : String}
    {root : Element} {items : List Scene} (h : t.Stages within n (.component block root items)) :
    ∃ a type r, t.runeOf? a = some (type, r) ∧ block = t.blockClass r ∧
      root = { a with attrs := r.rootAttrs type block within a } := by
  obtain ⟨d, hd⟩ := h
  rcases d with _ | d
  · cases hd
  · cases n with
    | element a =>
      rcases t.runeOf?_cases a with ha | ⟨type, r, ha⟩
      · simp [stage_part ha] at hd
      · simp only [stage_component ha, Option.map_eq_some_iff, Scene.component.injEq] at hd
        obtain ⟨items', -, rfl, rfl, -⟩ := hd
        exact ⟨a, type, r, ha, rfl, rfl⟩
    | array nodes => simp [stage_array] at hd
    | _ => cases hd

/-- A dressed document shows its scene. -/
theorem exists_stages_of_yields {t : Theme} (ht : t.HookFree) {within : Option String}
    {n out : Node} (h : t.Yields within n out) :
    ∃ s, t.Stages within n s ∧ out = s.shown none := by
  obtain ⟨d, hd⟩ := h
  have hwalk := walk_markedBy ht d within none n
  rw [markedBy_none, id_eq, hd] at hwalk
  obtain ⟨s, hs, hout⟩ := Option.map_eq_some_iff.mp hwalk.symm
  exact ⟨s, ⟨d, hs⟩, hout.symm⟩

/-! ## Where element classes stand -/

/-- A part that a block reaches has its element class. -/
theorem shown_part_reached {block label : String} {e : Element} (items : List Scene)
    (hl : nonEmpty? e.label? = some label) :
    Scene.shown (some block) (.part e items) = .element ⟨e.name,
      e.attrs.insert "class" (e.elementClass block label), Scene.shownAll (some block) items⟩ := by
  simp [Scene.shown_part, Scene.shownAll_eq, Element.reachedBy, Element.withAttr, Scene.pass, hl]

/-- A part that no block reaches, or that has no label, is as it was before. -/
theorem shown_part_unreached {reach : Option String} {e : Element} (items : List Scene)
    (h : reach = none ∨ nonEmpty? e.label? = none) :
    Scene.shown reach (.part e items) = .element ⟨e.name, e.attrs, Scene.shownAll none items⟩ := by
  rcases h with rfl | hl
  · simp [Scene.shown_part, Scene.shownAll_eq, Element.reachedBy, Scene.pass]
  · simp [Scene.shown_part, Scene.shownAll_eq, Element.reachedBy, Scene.pass, hl]

/--
The places of a dressed document are the places of its scene. At a part, which is no component, the
element of the scene stands : with the element class of a block if the block reaches the place and
the element has a label, and with no attribute changed in all other cases. At a component its own
root stands. So an element has the element class of one block at most, that of the nearest component
above it.
-/
theorem element_classes {t : Theme} (ht : t.HookFree) {within : Option String} {n out : Node}
    (h : t.Yields within n out) :
    ∃ s, t.Stages within n s ∧
      ∀ path, match s.locate? path with
        | none => out.at? path = none
        | some (above, .part e _) =>
          t.isComponent e = false ∧
          (∀ block block', Scene.ReachedBy block above → Scene.ReachedBy block' above →
            block = block') ∧
          (∀ block label, Scene.ReachedBy block above → nonEmpty? e.label? = some label →
            ∃ children, out.at? path = some (.element
              ⟨e.name, e.attrs.insert "class" (e.elementClass block label), children⟩)) ∧
          ((∀ block, ¬ Scene.ReachedBy block above) ∨ nonEmpty? e.label? = none →
            ∃ children, out.at? path = some (.element ⟨e.name, e.attrs, children⟩))
        | some (_, .component block root _) =>
          (∃ parent a type r, t.runeOf? a = some (type, r) ∧ block = t.blockClass r ∧
            root = { a with attrs := r.rootAttrs type block parent a }) ∧
          ∃ children, out.at? path = some (.element { root with children })
        | some _ => ∃ m, out.at? path = some m ∧ m.isElement = false := by
  obtain ⟨s, hs, rfl⟩ := exists_stages_of_yields ht h
  refine ⟨s, hs, fun path => ?_⟩
  have hat := Scene.at?_shown path none s
  rcases hx : s.locate? path with _ | ⟨above, x⟩
  · rw [hat, hx]
    rfl
  · rw [hx, Option.map_some] at hat
    obtain ⟨within', n', hn'⟩ := hs.of_locate? hx
    cases x with
    | leaf m hm => exact ⟨m, hat, Node.isElement_of_isBranch hm⟩
    | array items => exact ⟨_, hat, rfl⟩
    | component block root items =>
      obtain ⟨a, type, r, ha, hblock, hroot⟩ := hn'.of_component
      exact ⟨⟨within', a, type, r, ha, hblock, hroot⟩, _, hat⟩
    | part e items =>
      simp only [← Scene.reaching_eq_some_iff]
      refine ⟨hn'.of_part, ?unique, ?reached, ?unreached⟩
      case unique =>
        intro block block' hb hb'
        rw [hb] at hb'
        exact Option.some.inj hb'
      case reached =>
        intro block label hb hl
        rw [hat, hb, shown_part_reached items hl]
        exact ⟨_, rfl⟩
      case unreached =>
        intro hnone
        have hreach := hnone.imp_left Option.eq_none_iff_forall_ne_some.mpr
        rw [hat, shown_part_unreached items hreach]
        exact ⟨_, rfl⟩

end Theme

/-- A hint around a labelled row, with a labelled cell that has a class of its own, a paragraph
without a label and a labelled text in it. -/
def rowHint : Node :=
  .element (hint [.element ⟨"div", .ofList [(labelKey, "row")],
    [.element ⟨"b", .ofList [(labelKey, "cell"), ("class", "wide")], []⟩,
      .element ⟨"p", ∅, [.element ⟨"i", .ofList [(labelKey, "text")], []⟩]⟩]⟩])

/-- The row and the cell have the classes of the hint, and the chain ends at the paragraph. -/
def dressedRowHint : Node :=
  dressedHint [.element ⟨"div", .ofList [(labelKey, "row"), ("class", "rf-hint__row")],
    [.element ⟨"b", .ofList [(labelKey, "cell"), ("class", "rf-hint__cell wide")], []⟩,
      .element ⟨"p", ∅, [.element ⟨"i", .ofList [(labelKey, "text")], []⟩]⟩]⟩]

theorem hookFree_hintTheme : hintTheme.HookFree := by
  intro r hr
  rcases List.mem_cons.mp hr with rfl | hr
  · rfl
  · rw [List.mem_singleton.mp hr]

theorem element_classes_hint :
    hintTheme.HookFree ∧ hintTheme.Yields none rowHint dressedRowHint ∧
    ∃ s, hintTheme.Stages none rowHint s ∧
      ∀ path, s.locate? path = none → dressedRowHint.at? path = none := by
  have hy : hintTheme.Yields none rowHint dressedRowHint := ⟨5, by cbv⟩
  obtain ⟨s, hs, hplaces⟩ := Theme.element_classes hookFree_hintTheme hy
  refine ⟨hookFree_hintTheme, hy, s, hs, fun path hpath => ?_⟩
  have hplace := hplaces path
  rwa [hpath] at hplace

end Livery
