import Livery.Proofs.Agreement
import Livery.Theme.Hook

/-!
# Retagging

`Hook.retag` only renames. The hook runs inside the walk, so the enclosing components see the
renamed element among their walked children, and they look at names when they leave out consumed
`meta` elements. If neither the old names of the retagged components nor the new one is `meta`, this
look comes out the same (`Retaggable.consumes_retagged`). Nothing else in a walk depends on the name
of a walked node, so the walk with the hook and the walk without it stay in step from one depth to
the next (`InStep.succ`) : the one returns what the other returns, renamed.

Whether an instance of the retagged type is named `meta` is asked of all components that the walk
meets (`Theme.Meets`), those of the document and the synthesized ones.
-/

namespace Livery

/-! ## Renamed instances -/

namespace Node

mutual

/-- The node with another name for the instances of a type, at every depth. -/
def retagged (type name : String) : Node → Node
  | .array nodes => .array (retaggedAll type name nodes)
  | .element ⟨own, attrs, children⟩ =>
    .element ⟨if attrs.get? typeofKey = some type then name else own, attrs,
      retaggedAll type name children⟩
  | n => n

/-- `retagged` for the nodes of a list. -/
def retaggedAll (type name : String) : List Node → List Node
  | [] => []
  | n :: rest => retagged type name n :: retaggedAll type name rest

end

variable {type name : String}

theorem retaggedAll_eq (type name : String) :
    ∀ l : List Node, retaggedAll type name l = l.map (retagged type name)
  | [] => by simp [retaggedAll]
  | n :: rest => by simp [retaggedAll, retaggedAll_eq type name rest]

theorem retagged_leaf {n : Node} (h : n.isBranch = false) : n.retagged type name = n := by
  cases n <;> simp_all [retagged, isBranch]

theorem retagged_array (nodes : List Node) :
    (array nodes).retagged type name = .array (nodes.map (retagged type name)) := by
  rw [retagged, retaggedAll_eq]

theorem retagged_element (e : Element) :
    (element e).retagged type name =
      .element ⟨if e.typeOf? = some type then name else e.name, e.attrs,
        e.children.map (retagged type name)⟩ := by
  obtain ⟨own, attrs, children⟩ := e
  rw [retagged, retaggedAll_eq]
  rfl

theorem retagged_instance {e : Element} (h : e.typeOf? = some type) :
    (element e).retagged type name =
      .element ⟨name, e.attrs, e.children.map (retagged type name)⟩ := by
  rw [retagged_element, if_pos h]

theorem retagged_other {e : Element} (h : e.typeOf? ≠ some type) :
    (element e).retagged type name =
      .element { e with children := e.children.map (retagged type name) } := by
  rw [retagged_element, if_neg h]

end Node

/-! ## The theme with a hook -/

namespace Theme

variable {t : Theme} {type name : String}

/-- A hook for a type changes what is declared for this type alone. -/
theorem get?_runes_withHook (t : Theme) (type : String) (hook : RuneHook) (key : String) :
    (t.withHook type hook).runes.get? key =
      (t.runes.get? key).map fun r => if key = type then r.withHook hook else r := by
  rw [withHook]
  cases h : t.runes.get? type with
  | none => by_cases hkey : key = type <;> simp [h, hkey]
  | some r =>
    simp only [withRune, Dict.get?_insert]
    by_cases hkey : key = type <;> simp [Rune.withHook, h, hkey]

theorem runeOf?_withHook (t : Theme) (type : String) (hook : RuneHook) (e : Element) :
    (t.withHook type hook).runeOf? e =
      (t.runeOf? e).map fun p => (p.1, if p.1 = type then p.2.withHook hook else p.2) := by
  rw [runeOf?, runeOf?]
  cases e.typeOf? with
  | none => rfl
  | some key =>
    rw [Option.bind_some, Option.bind_some, get?_runes_withHook]
    cases t.runes.get? key <;> rfl

theorem blockClass_withHook (t : Theme) (type : String) (hook : RuneHook) (r : Rune) :
    (t.withHook type hook).blockClass r = t.blockClass r := by
  rw [blockClass, blockClass, withHook]
  cases t.runes.get? type <;> rfl

theorem marked_withHook (t : Theme) (type : String) (hook : RuneHook) (block : String) (n : Node) :
    (t.withHook type hook).marked block n = t.marked block n :=
  marked_congr block fun e _ => by
    rw [isComponent, isComponent, runeOf?_withHook, Option.isSome_map]

/-- A hook has no part in what is walked below a component. -/
theorem prepared_withHook (t : Theme) (type : String) (hook : RuneHook) (r : Rune) (e : Element) :
    (t.withHook type hook).prepared r e = t.prepared r e := by
  rw [prepared, prepared, blockClass_withHook]
  exact List.map_congr_left fun n _ => t.marked_withHook type hook _ n

/-- The walk of a component with a hook for a type. -/
theorem walk_component_withHook {e : Element} {type' : String} {r : Rune}
    (he : t.runeOf? e = some (type', r)) (hook : RuneHook) (d : ℕ) (within : Option String) :
    (t.withHook type hook).walk (d + 1) within (.element e) =
      ((t.prepared r e).mapM ((t.withHook type hook).walk d (some type'))).map fun walked =>
        .element
          (t.dressed type' (if type' = type then r.withHook hook else r) within e walked) := by
  have hrune : (t.withHook type hook).runeOf? e =
      some (type', if type' = type then r.withHook hook else r) := by
    rw [runeOf?_withHook, he, Option.map_some]
  have hprepared : t.prepared (if type' = type then r.withHook hook else r) e = t.prepared r e := by
    split <;> rfl
  rw [walk_component hrune, prepared_withHook, hprepared]
  simp only [dressed, blockClass_withHook]

/-! ## What a walk keeps -/

/-- What is asked of a theme in which the components of a type are to be retagged. -/
structure Retaggable (t : Theme) (type name : String) : Prop where
  hookFree : t.HookFree
  /-- No rune gives its components a type. -/
  untyped : ∀ r ∈ t.runes.values, r.rootAttributes.get? typeofKey = none
  /-- The type is declared. -/
  declared : t.runes.contains type = true
  /-- The new name is not the one that consumed children have. -/
  name_ne : name ≠ "meta"

/-- A component comes out with its own name and type. -/
theorem Retaggable.dressed_keeps (ht : t.Retaggable type name) {e : Element} {type' : String}
    {r : Rune} (he : t.runeOf? e = some (type', r)) (within : Option String) (walked : List Node) :
    (t.dressed type' r within e walked).name = e.name ∧
      (t.dressed type' r within e walked).typeOf? = e.typeOf? := by
  rw [dressed, ht.hookFree.hook_eq_none he]
  refine ⟨rfl, ?_⟩
  rw [Element.typeOf?, Element.attr?,
    r.get?_rootAttrs_of_uncomputed _ _ _ _ (by decide) (by decide) (by decide),
    ht.untyped r (t.runes.mem_values_of_get? (get?_of_runeOf? he)), Option.none_or, Element.typeOf?]

/-- An element comes out of a walk from an element of its name and type. -/
theorem Retaggable.exists_element (ht : t.Retaggable type name) {within : Option String} {n : Node}
    {x : Element} (h : t.Yields within n (.element x)) :
    ∃ e, n = .element e ∧ x.name = e.name ∧ x.typeOf? = e.typeOf? := by
  cases n with
  | element e =>
    refine ⟨e, rfl, ?_⟩
    rcases t.runeOf?_cases e with he | ⟨type', r, he⟩
    · obtain ⟨outs, -, heq⟩ := (yields_plain he).mp h
      cases heq
      exact ⟨rfl, rfl⟩
    · obtain ⟨walked, -, heq⟩ := (yields_component he).mp h
      cases heq
      exact ht.dressed_keeps he within walked
  | array nodes =>
    obtain ⟨outs, -, heq⟩ := yields_array.mp h
    cases heq
  | _ => cases (yields_leaf rfl).mp h

/-- The instances of the type are components. -/
theorem Retaggable.isComponent (ht : t.Retaggable type name) {e : Element}
    (he : e.typeOf? = some type) : t.isComponent e = true := by
  rw [Theme.isComponent, runeOf?, he, Option.bind_some, Option.isSome_map]
  exact ht.declared

/-! ## The components that are met -/

/-- A component that the walk of a node meets : one nearest below, or one that is called in the
end, be it of the document or synthesized. -/
def Meets (t : Theme) (n : Node) (e : Element) : Prop :=
  ∃ b ∈ t.nearest n, Relation.ReflTransGen t.Calls b e

theorem meets_self {e : Element} (h : t.isComponent e = true) : t.Meets (.element e) e :=
  ⟨e, nearest_component h ▸ List.mem_singleton_self e, .refl⟩

/-- What is met right below a node that is no component is met below the node. -/
theorem Meets.of_mem_contents {n m : Node} {e : Element} (h : t.Meets m e) (hn : t.Plain n)
    (hm : m ∈ n.contents) : t.Meets n e := by
  obtain ⟨b, hb, hreach⟩ := h
  exact ⟨b, hn.nearest_eq ▸ List.mem_flatMap.mpr ⟨m, hm, hb⟩, hreach⟩

/-- What is met in the walk below a component is met below the component. -/
theorem Meets.of_mem_prepared {m : Node} {e c : Element} {type : String} {r : Rune}
    (h : t.Meets m e) (hc : t.runeOf? c = some (type, r)) (hm : m ∈ t.prepared r c) :
    t.Meets (.element c) e := by
  obtain ⟨b, hb, hreach⟩ := h
  have hself : c ∈ t.nearest (.element c) := by
    rw [nearest_component (isComponent_iff.mpr ⟨type, r, hc⟩)]
    exact List.mem_singleton_self c
  have hcall : t.Calls c b := by
    refine ⟨type, r, hc, ?_⟩
    rw [nearestAll_eq]
    exact List.mem_flatMap.mpr ⟨m, hm, hb⟩
  exact ⟨c, hself, hreach.head hcall⟩

/-- What holds of the components nearest below, and of what such a component calls, holds of all
that are met. -/
theorem Meets.induct {motive : Element → Prop} {n : Node} {e : Element} (h : t.Meets n e)
    (near : ∀ b ∈ t.nearest n, motive b) (call : ∀ b c, motive b → t.Calls b c → motive c) :
    motive e := by
  obtain ⟨b, hb, hreach⟩ := h
  induction hreach with
  | refl => exact near b hb
  | tail _ hcall ih => exact call _ _ ih hcall

/-- No instance of a type that the walk of a node meets is named `meta`. -/
def NoneNamedMeta (t : Theme) (type : String) (n : Node) : Prop :=
  ∀ e, t.Meets n e → e.typeOf? = some type → e.name ≠ "meta"

/-! ## One component -/

/-- The look for consumed children comes out the same after the renaming. -/
theorem Retaggable.consumes_retagged (ht : t.Retaggable type name) {within : Option String}
    {n out : Node} (hn : t.NoneNamedMeta type n) (h : t.Yields within n out) (r : Rune) :
    r.consumes (out.retagged type name) = r.consumes out := by
  cases out with
  | element x =>
    obtain ⟨e, rfl, hxname, hxtype⟩ := ht.exists_element h
    by_cases hx : x.typeOf? = some type
    · -- neither the new name nor the old one is that of a consumed child
      have he : e.typeOf? = some type := hxtype ▸ hx
      have hown : x.name ≠ "meta" := hxname ▸ hn e (meets_self (ht.isComponent he)) he
      rw [Node.retagged_instance hx]
      simp [Rune.consumes, hown, ht.name_ne]
    · rw [Node.retagged_other hx]
      rfl
  | array nodes => rw [Node.retagged_array]; rfl
  | _ => rw [Node.retagged_leaf rfl]

/-- A component is put together from the renamed nodes as it is from the nodes, up to the renaming
of the component itself. -/
theorem Retaggable.dressed_retagged (ht : t.Retaggable type name) {e : Element} {type' : String}
    {r : Rune} (he : t.runeOf? e = some (type', r)) (within : Option String) {walked : List Node}
    (hwalked : ∀ out ∈ walked, r.consumes (out.retagged type name) = r.consumes out) :
    Node.element (t.dressed type' (if type' = type then r.withHook (Hook.retag name) else r)
        within e (walked.map (Node.retagged type name))) =
      (Node.element (t.dressed type' r within e walked)).retagged type name := by
  have hchildren : (walked.map (Node.retagged type name)).filter (fun n => !r.consumes n) =
      (walked.filter fun n => !r.consumes n).map (Node.retagged type name) := by
    rw [List.filter_map]
    refine congrArg _ (List.filter_congr fun out hout => ?_)
    rw [Function.comp_apply, hwalked out hout]
  have htypeOf : (t.dressed type' r within e walked).typeOf? = some type' :=
    (ht.dressed_keeps he within walked).2.trans (typeOf?_of_runeOf? he)
  have hr := ht.hookFree.hook_eq_none he
  by_cases htype : type' = type
  · have hinstance := htypeOf.trans (congrArg some htype)
    rw [if_pos htype, Node.retagged_instance hinstance, dressed, dressed, hr, ← hchildren]
    rfl
  · have hother : (t.dressed type' r within e walked).typeOf? ≠ some type := by
      rw [htypeOf, Ne, Option.some.injEq]
      exact htype
    rw [if_neg htype, Node.retagged_other hother, dressed, dressed, hr, ← hchildren]

/-! ## Two walks in step -/

/-- Down to a depth, a walk with the hook returns what the walk without it returns, renamed. -/
def InStep (t : Theme) (type name : String) (d : ℕ) : Prop :=
  ∀ (within : Option String) (n : Node), t.NoneNamedMeta type n →
    (t.withHook type (Hook.retag name)).walk d within n =
      (t.walk d within n).map (Node.retagged type name)

namespace InStep

variable {d : ℕ}

theorem mapM_eq (h : t.InStep type name d) (within : Option String) {l : List Node}
    (hl : ∀ m ∈ l, t.NoneNamedMeta type m) :
    l.mapM ((t.withHook type (Hook.retag name)).walk d within) =
      (l.mapM (t.walk d within)).map (List.map (Node.retagged type name)) := by
  rw [← mapM_map_option fun _ => rfl]
  exact mapM_congr_option fun m hm => h within m (hl m hm)

theorem array (h : t.InStep type name d) (within : Option String) {nodes : List Node}
    (hn : t.NoneNamedMeta type (.array nodes)) :
    (t.withHook type (Hook.retag name)).walk (d + 1) within (.array nodes) =
      (t.walk (d + 1) within (.array nodes)).map (Node.retagged type name) := by
  have hbelow : ∀ m ∈ nodes, t.NoneNamedMeta type m := fun m hm e he =>
    hn e (he.of_mem_contents (fun _ heq => by cases heq) hm)
  rw [walk_array, walk_array, h.mapM_eq within hbelow, Option.map_map, Option.map_map]
  exact congrArg (Option.map · _) (funext fun outs => (Node.retagged_array outs).symm)

theorem plain (h : t.InStep type name d) (ht : t.Retaggable type name) (within : Option String)
    {e : Element} (he : t.runeOf? e = none) (hn : t.NoneNamedMeta type (.element e)) :
    (t.withHook type (Hook.retag name)).walk (d + 1) within (.element e) =
      (t.walk (d + 1) within (.element e)).map (Node.retagged type name) := by
  have hplain := isComponent_eq_false_iff.mpr he
  have hbelow : ∀ m ∈ e.children, t.NoneNamedMeta type m := fun m hm x hx =>
    hn x (hx.of_mem_contents (fun _ heq => by cases heq; exact hplain) hm)
  have hother : e.typeOf? ≠ some type := by
    intro htype
    rw [ht.isComponent htype] at hplain
    cases hplain
  have he' : (t.withHook type (Hook.retag name)).runeOf? e = none := by
    rw [runeOf?_withHook, he, Option.map_none]
  rw [walk_plain he, walk_plain he', h.mapM_eq within hbelow, Option.map_map, Option.map_map]
  refine congrArg (Option.map · _) (funext fun outs => ?_)
  exact (Node.retagged_other (e := { e with children := outs }) hother).symm

theorem component (h : t.InStep type name d) (ht : t.Retaggable type name) (within : Option String)
    {e : Element} {type' : String} {r : Rune} (he : t.runeOf? e = some (type', r))
    (hn : t.NoneNamedMeta type (.element e)) :
    (t.withHook type (Hook.retag name)).walk (d + 1) within (.element e) =
      (t.walk (d + 1) within (.element e)).map (Node.retagged type name) := by
  have hbelow : ∀ m ∈ t.prepared r e, t.NoneNamedMeta type m := fun m hm x hx =>
    hn x (hx.of_mem_prepared he hm)
  rw [walk_component he, walk_component_withHook he, h.mapM_eq (some type') hbelow, Option.map_map,
    Option.map_map]
  cases hwalked : (t.prepared r e).mapM (t.walk d (some type')) with
  | none => rfl
  | some walked =>
    rw [mapM_eq_some_iff] at hwalked
    refine congrArg some (ht.dressed_retagged he within fun out hout => ?_)
    obtain ⟨m, hm, hout⟩ := exists_item_of_mem hwalked hout
    exact ht.consumes_retagged (hbelow m hm) ⟨d, hout⟩ r

/-- Walks that are in step stay in step one level further down. -/
theorem succ (h : t.InStep type name d) (ht : t.Retaggable type name) :
    t.InStep type name (d + 1) := by
  intro within n hn
  cases n with
  | array nodes => exact h.array within hn
  | element e =>
    rcases t.runeOf?_cases e with he | ⟨type', r, he⟩
    · exact h.plain ht within he hn
    · exact h.component ht within he hn
  | _ =>
    rw [walk_leaf d within rfl, walk_leaf d within rfl, Option.map_some, Node.retagged_leaf rfl]

end InStep

theorem Retaggable.inStep (ht : t.Retaggable type name) : ∀ d, t.InStep type name d
  | 0 => fun _ _ _ => rfl
  | d + 1 => (ht.inStep d).succ ht

/-! ## Retagging renames -/

/--
A hook that retags the components of a type only renames them. Take a theme without other hooks
whose runes set no types, a type that it declares, and a new name other than `meta`. If no instance
of the type in a document, be it an original or a synthesized one, is named `meta`, then in every
context the document with the hook is dressed to what it is dressed to without the hook, in which
the elements of the type have the new name at every depth and nothing else is changed. With the hook
it has a dressed form exactly if it has one without.
-/
theorem transform_retag {t : Theme} {type name : String} (ht : t.Retaggable type name) {n : Node}
    (hn : t.NoneNamedMeta type n) (within : Option String) :
    (t.withHook type (Hook.retag name)).transform within n =
      (t.transform within n).map (Node.retagged type name) := by
  ext out
  have hstep := fun d => ht.inStep d within n hn
  simp only [transform_eq_some_iff, Option.map_eq_some_iff, Yields, hstep]
  constructor
  · rintro ⟨d, plain, hplain, rfl⟩
    exact ⟨plain, ⟨d, hplain⟩, rfl⟩
  · rintro ⟨plain, ⟨d, hplain⟩, rfl⟩
    exact ⟨d, plain, hplain, rfl⟩

end Theme

/-- A hint with a note right below it and one further down. -/
def notedHint : Element :=
  hint [.element (note none), .element ⟨"div", ∅, [.array [.element (note none)]]⟩]

/-- A dressed note inside a hint, as a figure. -/
def dressedFigure (label : Option String) : Node :=
  .element ⟨"figure", .ofList (("typeof", "Note") :: label.toList.map (labelKey, ·) ++
    [("class", "rf-note rf-note--in-hint"), ("data-rune", "note")]), []⟩

/-- Notes become figures, and the hint around them stays as it is. -/
theorem transform_retag_hint :
    hintTheme.Retaggable "Note" "figure" ∧
    hintTheme.NoneNamedMeta "Note" (.element notedHint) ∧
    (hintTheme.withHook "Note" (Hook.retag "figure")).transform none (.element notedHint) =
      some (dressedHint
        [dressedFigure (some "side"), .element ⟨"div", ∅, [.array [dressedFigure none]]⟩]) := by
  have ht : hintTheme.Retaggable "Note" "figure" := by
    refine ⟨hookFree_hintTheme, ?_, rfl, by decide⟩
    intro r hr
    fin_cases hr <;> rfl
  have hn : hintTheme.NoneNamedMeta "Note" (.element notedHint) := by
    intro e he _
    have hmet : e ∈ [notedHint, note (some "side"), note none] := by
      refine he.induct (fun b hb => ?_) fun b c hb hcall => ?_
      · rw [Theme.nearest_component rfl] at hb
        exact List.mem_cons.mpr (Or.inl (List.mem_singleton.mp hb))
      · obtain ⟨type, r, hr, hc⟩ := hcall
        fin_cases hb <;> cases hr
        · exact List.mem_cons_of_mem _ hc
        · cases hc
        · cases hc
    fin_cases hmet <;> decide
  have hy : hintTheme.transform none (.element notedHint) = some (dressedHint
      [dressedNote (some "side"), .element ⟨"div", ∅, [.array [dressedNote none]]⟩]) :=
    Theme.transform_eq_some_iff.mpr ⟨5, by cbv⟩
  refine ⟨ht, hn, ?_⟩
  rw [Theme.transform_retag ht hn none, hy]
  rfl

end Livery
