import Livery.Proofs.ElementClass
import Livery.Proofs.RootAttributes

/-!
# Consumed children

A `meta` child that carries the value of a modifier is looked for once more when a component is put
together, and left out. The look goes over what the children have become : it does not go inside the
content wrapper, and at a child that is a component it sees the property of the dressed root. So a
consumed child is left out exactly if there is no content wrapper and the child, dressed, still has
a property that is one of the modifiers (`Rune.not_held_iff`, `Theme.consumes_dressed_iff`).

`Rune.held` are the dressed children that stand in the output of a component, each with its place
among the children, and `Theme.content` puts the content wrapper around them.
-/

namespace Livery

open Text (nonEmpty?)

namespace Rune

/-! ## Consumed elements -/

/-- A consumed element is a `meta` element with a modifier as its property. -/
theorem consumes_element_iff (r : Rune) (e : Element) :
    r.consumes (.element e) = true ↔
      e.name = "meta" ∧ ∃ p, e.attr? "property" = some p ∧ p ≠ "" ∧
        r.modifiers.contains p = true := by
  simp only [consumes, nonEmpty?, Bool.and_eq_true, decide_eq_true_eq]
  refine and_congr_right fun _ => ?_
  cases e.attr? "property" with
  | none => simp
  | some p => by_cases hp : p = "" <;> simp [hp, Option.filter]

/-! ## The children that are held -/

/-- The dressed children that stand in the output, each with its place among the children. -/
def held (r : Rune) (kids : List Node) : List (Node × ℕ) :=
  kids.zipIdx.filter fun p => r.contentWrapper.isSome || !r.consumes p.1

theorem held_wrapped {r : Rune} {w : ContentWrapper} (h : r.contentWrapper = some w)
    (kids : List Node) : (r.held kids).map Prod.fst = kids := by
  simp [held, h]

theorem held_plain {r : Rune} (h : r.contentWrapper = none) (kids : List Node) :
    (r.held kids).map Prod.fst = kids.filter fun n => !r.consumes n := by
  conv_rhs => rw [← List.zipIdx_map_fst 0 kids, List.filter_map]
  rw [held, h]
  rfl

/-- A child is not held if there is no content wrapper and it is consumed as it came out. -/
theorem not_held_iff (r : Rune) {kids : List Node} {i : ℕ} {kid : Node} (h : kids[i]? = some kid) :
    (∀ x, (x, i) ∉ r.held kids) ↔ r.contentWrapper = none ∧ r.consumes kid = true := by
  have hheld (x : Node) : (x, i) ∈ r.held kids ↔
      x = kid ∧ (r.contentWrapper.isSome || !r.consumes kid) = true := by
    rw [held, List.mem_filter, List.mk_mem_zipIdx_iff_getElem?, h, Option.some.injEq]
    constructor
    · rintro ⟨rfl, hx⟩
      exact ⟨rfl, hx⟩
    · rintro ⟨rfl, hx⟩
      exact ⟨rfl, hx⟩
  constructor
  · intro hnone
    have hkid := fun hx => hnone kid ((hheld kid).mpr ⟨rfl, hx⟩)
    simpa using hkid
  · rintro ⟨hw, hc⟩ x hx
    simpa [hw, hc] using ((hheld x).mp hx).2

end Rune

/-! ## Dressed children -/

namespace Theme

variable {t : Theme}

/-- What is walked in place of a child : the child with its label and with the element class of the
block that reaches it, if one does. -/
def stand (t : Theme) (r : Rune) (reach : Option String) (child : Node) : Node :=
  t.markedBy reach (r.labelled child)

/-- What the dressed children that are held become : the content wrapper around them, if any. -/
def content (t : Theme) (r : Rune) (kids : List Node) : List Node :=
  match r.contentWrapper with
  | some w => [.element ((w.around kids).reachedBy (some (t.blockClass r)))]
  | none => kids

/-- A part that a block reaches comes out with its element class, around its dressed children. -/
theorem yields_markedBy_part {reach within : Option String} {e : Element}
    (he : t.isComponent e = false) {out : Node}
    (h : t.Yields within (t.markedBy reach (.element e)) out) :
    ∃ below kids, List.Forall₂ (fun child kid => t.Yields within (t.markedBy below child) kid)
        e.children kids ∧
      out = .element (({ e with children := kids } : Element).reachedBy reach) := by
  have hplain (l : List Node) : t.runeOf? { e.reachedBy reach with children := l } = none := by
    rw [← isComponent_eq_false_iff.1 he]
    exact runeOf?_congr (e.attr?_reachedBy reach (by decide))
  rw [markedBy_part reach he [], yields_plain (hplain _)] at h
  obtain ⟨kids, hkids, rfl⟩ := h
  rw [List.forall₂_map_left_iff] at hkids
  exact ⟨_, kids, hkids, by rw [← e.reachedBy_children]⟩

/-- The property that an element comes out with : the one that the theme sets for a component, or
else its own. -/
def property? (t : Theme) (m : Element) : Option String :=
  ((t.runeOf? m).bind fun p => p.2.rootAttributes.get? "property").or (m.attr? "property")

/-- A content wrapper has no property. -/
theorem property?_around (t : Theme) (w : ContentWrapper) (l : List Node) :
    t.property? (w.around l) = none := by
  rw [property?, isComponent_eq_false_iff.mp (isComponent_around t w l), ContentWrapper.around,
    Element.attr?, Dict.get?_insert]
  rfl

/-- An element that a block reaches or not keeps its name. -/
theorem yields_markedBy_element (ht : t.HookFree) {reach within : Option String} {m : Element}
    {kid : Node} (h : t.Yields within (t.markedBy reach (.element m)) kid) :
    ∃ e, kid = .element e ∧ e.name = m.name ∧ e.attr? "property" = t.property? m := by
  rw [property?]
  rcases t.runeOf?_cases m with hm | ⟨type, r', hm⟩
  · obtain ⟨below, kids, -, rfl⟩ := yields_markedBy_part (isComponent_eq_false_iff.2 hm) h
    refine ⟨_, rfl, Element.name_reachedBy _ _, ?_⟩
    rw [Element.attr?_reachedBy _ reach (by decide), hm]
    rfl
  · rw [markedBy_component reach (isComponent_iff.2 ⟨type, r', hm⟩), yields_component hm] at h
    obtain ⟨walked, -, rfl⟩ := h
    rw [dressed, ht.hook_eq_none hm]
    refine ⟨_, rfl, rfl, ?_⟩
    rw [Element.attr?, r'.get?_rootAttrs_of_uncomputed _ _ _ _ (by decide) (by decide) (by decide),
      hm]
    rfl

/-- What is consumed comes from a `meta` element that comes out with a property. -/
theorem exists_meta_of_consumes (ht : t.HookFree) {r : Rune} {reach within : Option String}
    {n out : Node} (h : t.Yields within (t.markedBy reach n) out) (hout : r.consumes out = true) :
    ∃ e, n = .element e ∧ e.name = "meta" ∧ (t.property? e).isSome = true := by
  cases n with
  | element e =>
    obtain ⟨x, rfl, hname, hproperty⟩ := yields_markedBy_element ht h
    obtain ⟨hmeta, p, hp, -⟩ := (r.consumes_element_iff x).mp hout
    exact ⟨e, rfl, hname ▸ hmeta, by rw [← hproperty, hp]; rfl⟩
  | array nodes =>
    rw [markedBy_of_not_element reach rfl] at h
    obtain ⟨outs, -, rfl⟩ := yields_array.mp h
    cases hout
  | _ =>
    rw [markedBy_of_not_element reach rfl, yields_leaf rfl] at h
    subst h
    cases hout

theorem property?_relabelled (r : Rune) (m : Element) :
    t.property? (r.relabelled m) = t.property? m := by
  rw [property?, property?, runeOf?_relabelled, r.attr?_relabelled m (by decide)]

/-- An element keeps its name, and its property too unless it is a component whose theme sets
another one. -/
theorem yields_stand_element (ht : t.HookFree) {r : Rune} {reach within : Option String}
    {m : Element} {kid : Node} (h : t.Yields within (t.stand r reach (.element m)) kid) :
    ∃ e, kid = .element e ∧ e.name = m.name ∧
      e.attr? "property" =
        ((t.runeOf? m).bind fun p => p.2.rootAttributes.get? "property").or
          (m.attr? "property") := by
  rw [stand, r.labelled_element] at h
  obtain ⟨e, rfl, hname, hproperty⟩ := yields_markedBy_element ht h
  rw [property?_relabelled] at hproperty
  exact ⟨e, rfl, hname.trans (r.name_relabelled m), hproperty⟩

/-- A consumed child is consumed as it came out, unless it is a component whose theme gives it a
property that is no modifier. -/
theorem consumes_dressed_iff (ht : t.HookFree) {r : Rune} {reach within : Option String}
    {m : Element} {kid : Node} (hm : r.consumes (.element m) = true)
    (h : t.Yields within (t.stand r reach (.element m)) kid) :
    r.consumes kid = true ↔ ∀ type r' p, t.runeOf? m = some (type, r') →
      r'.rootAttributes.get? "property" = some p → p ≠ "" ∧ r.modifiers.contains p = true := by
  obtain ⟨e, rfl, hname, hproperty⟩ := yields_stand_element ht h
  obtain ⟨hmeta, q, hq, hne, hmod⟩ := (r.consumes_element_iff m).mp hm
  rw [r.consumes_element_iff, hproperty, hname, hq]
  constructor
  · rintro ⟨-, p', hp', hne', hmod'⟩ type r' p hr' hp
    rw [hr', Option.bind_some, hp, Option.some_or, Option.some.injEq] at hp'
    exact hp' ▸ ⟨hne', hmod'⟩
  · intro hset
    refine ⟨hmeta, ?_⟩
    rcases t.runeOf?_cases m with hr' | ⟨type, r', hr'⟩
    · exact ⟨q, by rw [hr']; rfl, hne, hmod⟩
    · rw [hr', Option.bind_some]
      cases hp : r'.rootAttributes.get? "property" with
      | none => exact ⟨q, rfl, hne, hmod⟩
      | some p => exact ⟨p, rfl, hset type r' p hr' hp⟩

/-! ## What a component is put together from -/

/-- The content wrapper is never consumed. -/
theorem consumes_around (r : Rune) (w : ContentWrapper) (reach : Option String)
    (kids : List Node) : r.consumes (.element ((w.around kids).reachedBy reach)) = false := by
  rw [Bool.eq_false_iff, Ne, r.consumes_element_iff]
  rintro ⟨-, p, hp, -⟩
  rw [Element.attr?_reachedBy _ reach (by decide), ContentWrapper.around, Element.attr?,
    Dict.get?_insert] at hp
  cases hp

/-- What comes of the nodes below a component has three parts : what comes of the synthesized
elements in front, of the content, and of the synthesized elements behind. -/
theorem exists_parts_of_prepared {R : Node → Node → Prop} {r : Rune} {e : Element}
    {walked : List Node} (h : List.Forall₂ R (t.prepared r e) walked) :
    ∃ front middle back, walked = front ++ middle ++ back ∧
      List.Forall₂ R ((r.synthesized (r.resolve e) true).map (t.marked (t.blockClass r))) front ∧
      List.Forall₂ R ((r.wrapped (e.children.map r.labelled)).map (t.marked (t.blockClass r)))
        middle ∧
      List.Forall₂ R ((r.synthesized (r.resolve e) false).map (t.marked (t.blockClass r)))
        back := by
  rw [prepared, List.map_append, List.map_append] at h
  obtain ⟨hd, back, rfl, hhd, hback⟩ := forall₂_append_left h
  obtain ⟨front, middle, rfl, hfront, hmiddle⟩ := forall₂_append_left hhd
  exact ⟨front, middle, back, rfl, hfront, hmiddle, hback⟩

/-- The dressed children of a component, and what they become in its output. -/
theorem exists_kids {r : Rune} {within : Option String} {children walked : List Node}
    (h : List.Forall₂ (t.Yields within)
      ((r.wrapped (children.map r.labelled)).map (t.marked (t.blockClass r))) walked) :
    ∃ reach kids, List.Forall₂ (fun child kid => t.Yields within (t.stand r reach child) kid)
        children kids ∧
      walked.filter (fun n => !r.consumes n) = t.content r ((r.held kids).map Prod.fst) := by
  cases hw : r.contentWrapper with
  | none =>
    simp only [Rune.wrapped_none hw, List.map_map, List.forall₂_map_left_iff] at h
    refine ⟨some (t.blockClass r), walked, h, ?_⟩
    rw [r.held_plain hw, content, hw]
  | some w =>
    rw [Rune.wrapped_some hw, List.map_singleton, List.forall₂_cons_left_iff] at h
    obtain ⟨out, rest, hout, hrest, rfl⟩ := h
    rw [List.forall₂_nil_left_iff] at hrest
    rw [← markedBy_some] at hout
    obtain ⟨reach, kids, hkids, rfl⟩ := yields_markedBy_part (isComponent_around t w _) hout
    rw [w.children_around, List.forall₂_map_left_iff] at hkids
    refine ⟨reach, kids, hkids, ?_⟩
    rw [Rune.held_wrapped hw, content, hw, hrest, List.filter_singleton]
    have hkept := consumes_around r w (some (t.blockClass r)) kids
    simp only [ContentWrapper.around] at hkept ⊢
    rw [hkept]
    rfl

/-! ## Consumed children -/

/--
The output of a component has its dressed synthesized elements in front and behind, and between them
the dressed children that are held, inside the content wrapper if there is one. A child that was
consumed for its value is not among them exactly if there is no content wrapper, and the theme does
not dress the child itself as a component with a property that is no modifier of this one.
-/
theorem consumed_child_left_out_iff {t : Theme} (ht : t.HookFree) {within : Option String}
    {e : Element} {type : String} {r : Rune} {out : Node} (he : t.runeOf? e = some (type, r))
    (h : t.Yields within (.element e) out) :
    ∃ reach front kids back,
      List.Forall₂ (t.Yields (some type))
        ((r.synthesized (r.resolve e) true).map (t.marked (t.blockClass r))) front ∧
      List.Forall₂ (fun child kid => t.Yields (some type) (t.stand r reach child) kid)
        e.children kids ∧
      List.Forall₂ (t.Yields (some type))
        ((r.synthesized (r.resolve e) false).map (t.marked (t.blockClass r))) back ∧
      out = .element ⟨e.name, r.rootAttrs type (t.blockClass r) within e,
        front.filter (fun n => !r.consumes n) ++ t.content r ((r.held kids).map Prod.fst) ++
          back.filter (fun n => !r.consumes n)⟩ ∧
      ∀ (i : ℕ) (m : Element), e.children[i]? = some (.element m) →
        r.consumes (.element m) = true →
        ((∀ kid, (kid, i) ∉ r.held kids) ↔
          r.contentWrapper = none ∧
            ∀ type' r' p, t.runeOf? m = some (type', r') →
              r'.rootAttributes.get? "property" = some p →
              p ≠ "" ∧ r.modifiers.contains p = true) := by
  obtain ⟨walked, hwalked, rfl⟩ := (yields_component he).1 h
  obtain ⟨front, middle, back, rfl, hfront, hmiddle, hback⟩ := exists_parts_of_prepared hwalked
  obtain ⟨reach, kids, hkids, hcontent⟩ := exists_kids hmiddle
  refine ⟨reach, front, kids, back, hfront, hkids, hback, ?_, ?_⟩
  · rw [dressed, ht.hook_eq_none he, List.filter_append, List.filter_append, hcontent]
  · intro i m hi hm
    obtain ⟨kid, hkid, hy⟩ := exists_result_of_getElem? hkids hi
    rw [r.not_held_iff hkid, consumes_dressed_iff ht hm hy]

end Theme

/-- A child of a hint that is read for the kind of the hint. -/
def kind : Node := .element ⟨"meta", .ofList [("property", "kind")], []⟩

/-- Without a content wrapper the kind of a hint is not held. -/
theorem consumed_child_left_out_hint :
    hintTheme.HookFree ∧
    hintTheme.Yields none (.element (hint [kind, .text "a"])) (dressedHint [.text "a"]) ∧
    ∃ r kids, hintTheme.runes.get? "Hint" = some r ∧ r.consumes kind = true ∧
      ∀ kid, (kid, 0) ∉ r.held kids := by
  have hy : hintTheme.Yields none (.element (hint [kind, .text "a"])) (dressedHint [.text "a"]) :=
    ⟨3, by cbv⟩
  have hrune : ∃ r, hintTheme.runeOf? (hint [kind, .text "a"]) = some ("Hint", r) := ⟨_, rfl⟩
  obtain ⟨r, hr⟩ := hrune
  obtain ⟨reach, front, kids, back, -, -, -, -, hleft⟩ :=
    Theme.consumed_child_left_out_iff hookFree_hintTheme hr hy
  cases hr
  refine ⟨hookFree_hintTheme, hy, _, kids, rfl, rfl, (hleft 0 _ rfl rfl).mpr ⟨rfl, ?_⟩⟩
  intro type' r' p hr'
  cases hr'

/-- `hintTheme`, with a content wrapper for hints. -/
def wrappedHintTheme : Theme where
  classPrefix := "rf"
  runes := .ofList
    [("Hint", { block := "hint", modifiers := .ofList [("kind", {})],
                contentWrapper := some ⟨"div", "body"⟩ })]

/-- Inside a content wrapper the kind of a hint stays in the output. -/
theorem consumed_child_kept_in_wrapper :
    wrappedHintTheme.HookFree ∧
    (∃ r, wrappedHintTheme.runeOf? (hint [kind, .text "a"]) = some ("Hint", r) ∧
      r.consumes kind = true) ∧
    wrappedHintTheme.Yields none (.element (hint [kind, .text "a"]))
      (dressedHint [.element ⟨"div", .ofList [("data-name", "body"), ("class", "rf-hint__body")],
        [kind, .text "a"]⟩]) := by
  refine ⟨?_, ⟨_, rfl, rfl⟩, ⟨4, by cbv⟩⟩
  intro r hr
  rw [List.mem_singleton.mp hr]

end Livery
