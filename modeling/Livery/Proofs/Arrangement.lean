import Livery.Proofs.Consumption

/-!
# The children of a dressed component

The children of a component are put in order before they are walked : the synthesized elements in
front, the labelled children, inside the content wrapper if there is one, and the synthesized
elements behind (`Rune.arranged`). What is left out is decided afterwards, by a look at what each of
these nodes has become. So the look also meets the synthesized elements, and the components among
the children with the properties that the theme sets for them. `Theme.sheds` says of a node before
the walk whether it is left out after it.

`Theme.Complete` is the arrangement without these losses : only the consumed children are missing.
`Theme.complete_iff` says when it is what comes out.
-/

namespace Livery

open Text (nonEmpty?)

/-- If a property selects no fewer items than a weaker one, both select the same. -/
theorem filter_eq_of_length {α : Type} {p q : α → Bool} :
    ∀ {l : List α}, (∀ a ∈ l, p a = true → q a = true) →
      (l.filter p).length = (l.filter q).length → ∀ a ∈ l, p a = q a
  | [], _, _ => by simp
  | b :: l, h, hlen => by
    have hb := h b List.mem_cons_self
    have hrest : ∀ a ∈ l, p a = true → q a = true := fun a ha => h a (List.mem_cons_of_mem _ ha)
    have hle := List.countP_mono_left hrest
    rw [List.countP_eq_length_filter, List.countP_eq_length_filter] at hle
    rw [List.filter_cons, List.filter_cons] at hlen
    have heq : p b = q b ∧ (l.filter p).length = (l.filter q).length := by
      cases hp : p b <;> cases hq : q b <;> simp [hp, hq] at hb hlen ⊢ <;> omega
    intro a ha
    rcases List.mem_cons.mp ha with rfl | ha
    · exact heq.1
    · exact filter_eq_of_length hrest heq.2 a ha

/-- The number of children of a dressed component if nothing is lost : the synthesized elements, and
between them the content wrapper or else the children that are not consumed. -/
def Rune.childCount (r : Rune) (e : Element) : ℕ :=
  (r.synthesized (r.resolve e) true).length +
    (if r.contentWrapper.isSome then 1 else (e.children.filter fun c => !r.consumes c).length) +
    (r.synthesized (r.resolve e) false).length

namespace Theme

variable {t : Theme}

/-! ## What is left out -/

/-- Whether a node is left out of a component after the walk : it is a `meta` element and comes out
with one of the modifiers as its property. -/
def sheds (t : Theme) (r : Rune) : Node → Bool
  | .element m => m.name = "meta" && (nonEmpty? (t.property? m)).any r.modifiers.contains
  | _ => false

theorem sheds_labelled (r : Rune) (n : Node) : t.sheds r (r.labelled n) = t.sheds r n := by
  cases n with
  | element m => rw [r.labelled_element, sheds, sheds, r.name_relabelled, property?_relabelled]
  | _ => rw [r.labelled_of_not_element rfl]

/-- The content wrapper is never left out. -/
theorem sheds_around (r : Rune) (w : ContentWrapper) (l : List Node) :
    t.sheds r (.element (w.around l)) = false := by
  rw [sheds, property?_around]
  simp [nonEmpty?]

/-- The look after the walk sees what `sheds` says before it. -/
theorem consumes_eq_sheds (ht : t.HookFree) (r : Rune) {block : String} {within : Option String}
    {n kid : Node} (h : t.Yields within (t.marked block n) kid) : r.consumes kid = t.sheds r n := by
  rw [← markedBy_some] at h
  cases n with
  | element m =>
    obtain ⟨e, rfl, hname, hproperty⟩ := yields_markedBy_element ht h
    rw [Rune.consumes, sheds, hname, hproperty]
    cases nonEmpty? (t.property? m) <;> rfl
  | array nodes =>
    rw [markedBy_of_not_element _ rfl, yields_array] at h
    obtain ⟨outs, -, rfl⟩ := h
    rfl
  | _ =>
    rw [markedBy_of_not_element _ rfl, yields_leaf rfl] at h
    rw [h]
    rfl

/-- The nodes of a list are what the arranged nodes of a component have become, without those that
are left out. -/
def Remaining (t : Theme) (type : String) (r : Rune) (e : Element) (l : List Node) : Prop :=
  List.Forall₂ (t.Yields (some type))
    (((r.arranged e).filter fun n => !t.sheds r n).map (t.marked (t.blockClass r))) l

/-- The children of a dressed component are what remains of the arranged nodes. -/
theorem children_dressed (ht : t.HookFree) {within : Option String} {e : Element} {type : String}
    {r : Rune} {out : Node} (he : t.runeOf? e = some (type, r))
    (h : t.Yields within (.element e) out) :
    ∃ l, out = .element ⟨e.name, r.rootAttrs type (t.blockClass r) within e, l⟩ ∧
      t.Remaining type r e l := by
  obtain ⟨walked, hwalked, rfl⟩ := (yields_component he).1 h
  refine ⟨_, by rw [dressed, ht.hook_eq_none he], ?_⟩
  rw [prepared, ← Rune.arranged, List.forall₂_map_left_iff] at hwalked
  rw [Remaining, List.forall₂_map_left_iff]
  refine List.rel_filter (fun n kid hy => ?_) hwalked
  simp only [consumes_eq_sheds ht r hy]

/-! ## The complete arrangement -/

/--
The children of a component without losses : one for each synthesized element in front, then the
content wrapper or else one for each child that is not consumed, then one for each synthesized
element behind.
-/
def Complete (t : Theme) (type : String) (r : Rune) (e : Element) (l : List Node) : Prop :=
  ∃ front middle back, l = front ++ middle ++ back ∧
    List.Forall₂ (t.Yields (some type))
      ((r.synthesized (r.resolve e) true).map (t.marked (t.blockClass r))) front ∧
    (match r.contentWrapper with
      | some w =>
        ∃ kids, middle = [.element ((w.around kids).reachedBy (some (t.blockClass r)))]
      | none =>
        List.Forall₂ (t.Yields (some type))
          ((e.children.filter fun c => !r.consumes c).map (t.stand r (some (t.blockClass r))))
          middle) ∧
    List.Forall₂ (t.Yields (some type))
      ((r.synthesized (r.resolve e) false).map (t.marked (t.blockClass r))) back

theorem Complete.length_eq {type : String} {r : Rune} {e : Element} {l : List Node}
    (h : t.Complete type r e l) : l.length = r.childCount e := by
  obtain ⟨front, middle, back, rfl, hfront, hmiddle, hback⟩ := h
  have hf := hfront.length_eq
  have hb := hback.length_eq
  rw [List.length_map] at hf hb
  have hm : middle.length =
      if r.contentWrapper.isSome then 1 else (e.children.filter fun c => !r.consumes c).length := by
    cases hw : r.contentWrapper with
    | some w =>
      rw [hw] at hmiddle
      obtain ⟨kids, rfl⟩ := hmiddle
      rfl
    | none =>
      rw [hw] at hmiddle
      have hlen := hmiddle.length_eq
      rw [List.length_map] at hlen
      exact hlen.symm
  rw [List.length_append, List.length_append, ← hf, hm, ← hb, Rune.childCount]

/-! ## When nothing is lost -/

section

variable {e : Element} {type : String} {r : Rune} {l : List Node}

/-- What stands among the children of a dressed component is not consumed as it came out. -/
theorem not_sheds_of_mem (ht : t.HookFree)
    (hl : t.Remaining type r e l)
    {n kid : Node} (hkid : kid ∈ l) (hy : t.Yields (some type) (t.marked (t.blockClass r) n) kid) :
    t.sheds r n = false := by
  obtain ⟨_, hmem, hy'⟩ := exists_item_of_mem hl hkid
  obtain ⟨m, hm, rfl⟩ := List.mem_map.mp hmem
  rw [← consumes_eq_sheds ht r hy, consumes_eq_sheds ht r hy']
  simpa using (List.mem_filter.mp hm).2

/-- The children that are walked without a content wrapper. -/
theorem arranged_filter_plain (hw : r.contentWrapper = none) :
    ((r.wrapped (e.children.map r.labelled)).filter fun n => !t.sheds r n) =
      (e.children.filter fun c => !t.sheds r c).map r.labelled := by
  rw [Rune.wrapped_none hw, List.filter_map]
  simp only [Function.comp_def, sheds_labelled]

/-- Synthesized elements that are not shed all remain. -/
theorem filter_synthesized
    (h : ∀ before, ∀ n ∈ r.synthesized (r.resolve e) before, t.sheds r n = false) (before : Bool) :
    ((r.synthesized (r.resolve e) before).filter fun n => !t.sheds r n) =
      r.synthesized (r.resolve e) before := by
  refine List.filter_eq_self.mpr fun n hn => ?_
  rw [h before n hn]
  rfl

theorem complete_of_agree
    (hl : t.Remaining type r e l)
    (hsynthesized : ∀ before, ∀ n ∈ r.synthesized (r.resolve e) before, t.sheds r n = false)
    (hchildren : r.contentWrapper = none → ∀ c ∈ e.children, t.sheds r c = r.consumes c) :
    t.Complete type r e l := by
  rw [Remaining, Rune.arranged, List.filter_append, List.filter_append,
    filter_synthesized hsynthesized, filter_synthesized hsynthesized, List.map_append,
    List.map_append] at hl
  obtain ⟨hd, back, rfl, hhd, hback⟩ := forall₂_append_left hl
  obtain ⟨front, middle, rfl, hfront, hmiddle⟩ := forall₂_append_left hhd
  refine ⟨front, middle, back, rfl, hfront, ?_, hback⟩
  cases hw : r.contentWrapper with
  | none =>
    have hkept : (e.children.filter fun c => !t.sheds r c) =
        e.children.filter fun c => !r.consumes c :=
      List.filter_congr fun c hc => by rw [hchildren hw c hc]
    rw [arranged_filter_plain hw, hkept, List.map_map] at hmiddle
    exact hmiddle
  | some w =>
    rw [Rune.wrapped_some hw, List.filter_singleton, sheds_around] at hmiddle
    obtain ⟨out, rest, hout, hrest, rfl⟩ := List.forall₂_cons_left_iff.mp hmiddle
    rw [List.map_nil, List.forall₂_nil_left_iff] at hrest
    rw [← markedBy_some] at hout
    obtain ⟨below, kids, -, rfl⟩ := yields_markedBy_part (isComponent_around t w _) hout
    exact ⟨kids, by rw [hrest]; rfl⟩

theorem Complete.not_sheds_synthesized (ht : t.HookFree)
    (hl : t.Remaining type r e l)
    (h : t.Complete type r e l) :
    ∀ before, ∀ n ∈ r.synthesized (r.resolve e) before, t.sheds r n = false := by
  obtain ⟨front, middle, back, rfl, hfront, -, hback⟩ := h
  intro before n hn
  have hn' := List.mem_map_of_mem (f := t.marked (t.blockClass r)) hn
  cases before with
  | true =>
    obtain ⟨kid, hkid, hy⟩ := exists_item_of_mem hfront.flip hn'
    exact not_sheds_of_mem ht hl (by simp [hkid]) hy
  | false =>
    obtain ⟨kid, hkid, hy⟩ := exists_item_of_mem hback.flip hn'
    exact not_sheds_of_mem ht hl (by simp [hkid]) hy

theorem Complete.sheds_eq_consumes (ht : t.HookFree) (hl : t.Remaining type r e l)
    (h : t.Complete type r e l) (hw : r.contentWrapper = none) :
    ∀ c ∈ e.children, t.sheds r c = r.consumes c := by
  have hcount := h.length_eq
  have hsynthesized := h.not_sheds_synthesized ht hl
  have hkept : ∀ c ∈ e.children, (!r.consumes c) = true → (!t.sheds r c) = true := by
    obtain ⟨front, middle, back, rfl, -, hmiddle, -⟩ := h
    rw [hw] at hmiddle
    intro c hc hc'
    have hmem : t.stand r (some (t.blockClass r)) c ∈
        (e.children.filter fun c => !r.consumes c).map (t.stand r (some (t.blockClass r))) :=
      List.mem_map_of_mem (List.mem_filter.mpr ⟨hc, hc'⟩)
    obtain ⟨kid, hkid, hy⟩ := exists_item_of_mem hmiddle.flip hmem
    rw [← sheds_labelled, not_sheds_of_mem ht hl (by simp [hkid]) hy]
    rfl
  -- As many children remain as are not consumed, so none of these is lost and no other one stays.
  have hlen : (e.children.filter fun c => !r.consumes c).length =
      (e.children.filter fun c => !t.sheds r c).length := by
    rw [← hl.length_eq, List.length_map, Rune.arranged, List.filter_append, List.filter_append,
      filter_synthesized hsynthesized, filter_synthesized hsynthesized, arranged_filter_plain hw,
      Rune.childCount, hw] at hcount
    simp only [List.length_append, List.length_map, Option.isSome_none, Bool.false_eq_true,
      if_false] at hcount
    omega
  intro c hc
  have heq := filter_eq_of_length hkept hlen c hc
  simpa using heq.symm

/--
The children of a dressed component are the synthesized elements in front, the content wrapper or
else the children that are not consumed, and the synthesized elements behind, each of them once and
in this order, exactly if none of the synthesized elements comes out as a consumed `meta` element,
and, where there is no content wrapper, a child comes out as one only if it was one before. Their
number follows.
-/
theorem complete_iff (ht : t.HookFree) {within : Option String} {out : Node}
    (he : t.runeOf? e = some (type, r)) (h : t.Yields within (.element e) out) :
    ∃ l, out = .element ⟨e.name, r.rootAttrs type (t.blockClass r) within e, l⟩ ∧
      t.Remaining type r e l ∧
      (t.Complete type r e l ↔
        (∀ before, ∀ n ∈ r.synthesized (r.resolve e) before, t.sheds r n = false) ∧
          (r.contentWrapper = none → ∀ c ∈ e.children, t.sheds r c = r.consumes c)) ∧
      (t.Complete type r e l → l.length = r.childCount e) := by
  obtain ⟨l, rfl, hl⟩ := children_dressed ht he h
  refine ⟨l, rfl, hl, ⟨fun hc => ⟨?_, ?_⟩, fun hc => ?_⟩, Complete.length_eq⟩
  · exact hc.not_sheds_synthesized ht hl
  · exact hc.sheds_eq_consumes ht hl
  · exact complete_of_agree hl hc.1 hc.2

end

end Theme

/-! ## An element in front that is lost -/

/-- Hints may have a kind, and get an element in front with the kind as its property. -/
def kindRune (tag : String) : Rune where
  block := "hint"
  modifiers := .ofList [("kind", {})]
  scaffold := .ofList
    [("kind", { tag, before := true, attrs := .ofList [("property", .literal "kind")] })]

/-- A theme of hints with an element in front. -/
def kindTheme (tag : String) : Theme where
  classPrefix := "rf"
  tokenPrefix := "--rf"
  runes := .ofList [("Hint", kindRune tag)]

/-- The element in front of a hint, dressed. -/
def dressedKind (tag : String) : Node :=
  .element ⟨tag, .ofList [("data-name", "kind"), ("property", "kind"), ("class", "rf-hint__kind")],
    []⟩

theorem hookFree_kindTheme (tag : String) : (kindTheme tag).HookFree := by
  intro r hr
  rw [List.mem_singleton.mp hr]
  rfl

/-- A `span` element stands in front of the child of a hint. -/
theorem complete_iff_span :
    (kindTheme "span").HookFree ∧
    (kindTheme "span").runeOf? (hint [.text "a"]) = some ("Hint", kindRune "span") ∧
    (kindTheme "span").Yields none (.element (hint [.text "a"]))
      (dressedHint [dressedKind "span", .text "a"]) ∧
    (kindTheme "span").Complete "Hint" (kindRune "span") (hint [.text "a"])
      [dressedKind "span", .text "a"] := by
  have hrune : (kindTheme "span").runeOf? (hint [.text "a"]) = some ("Hint", kindRune "span") := rfl
  have hy : (kindTheme "span").Yields none (.element (hint [.text "a"]))
      (dressedHint [dressedKind "span", .text "a"]) := ⟨3, by cbv⟩
  obtain ⟨l, hout, -, hcomplete, -⟩ :=
    Theme.complete_iff (hookFree_kindTheme "span") hrune hy
  rw [dressedHint, Node.element.injEq, Element.mk.injEq] at hout
  obtain rfl := hout.2.2
  refine ⟨hookFree_kindTheme "span", hrune, hy, hcomplete.mpr ⟨?_, ?_⟩⟩
  · intro before n hn
    cases before with
    | true =>
      rw [List.mem_singleton.mp hn]
      rfl
    | false => cases hn
  · intro _ c hc
    rw [List.mem_singleton.mp hc]
    rfl

/-- A `meta` element in front of a hint is lost. -/
theorem synthesized_kind_lost :
    (kindTheme "meta").HookFree ∧
    (kindTheme "meta").runeOf? (hint [.text "a"]) = some ("Hint", kindRune "meta") ∧
    (kindTheme "meta").Yields none (.element (hint [.text "a"])) (dressedHint [.text "a"]) ∧
    ¬(kindTheme "meta").Complete "Hint" (kindRune "meta") (hint [.text "a"]) [.text "a"] := by
  refine ⟨hookFree_kindTheme "meta", rfl, ⟨3, by cbv⟩, fun h => ?_⟩
  have hlen := h.length_eq
  have hcount : (kindRune "meta").childCount (hint [.text "a"]) = 2 := by cbv
  rw [hcount] at hlen
  cases hlen

end Livery
