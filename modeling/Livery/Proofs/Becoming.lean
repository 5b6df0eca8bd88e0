import Livery.Proofs.Agreement
import Livery.Proofs.Content

/-!
# Dressing up to element classes

What is walked below a component has element classes on it that the nodes of the document do not
have. `Theme.Becomes` leaves them out : `n` becomes `out` if `out` is the dressed form of `n` with
the element classes of some block on it, or without any. `Becomes.induct` is the induction on this
relation. Below a component it goes to the labelled children inside the content wrapper, between the
synthesized elements (`Rune.arranged`), and an element that is no component keeps all of its
attributes but the class.

Leaving out what is consumed changes nothing about a reading of the children that reads nothing from
what is consumed (`flatMap_filter_eq`). So the text of a node is the same after dressing if no
element is synthesized in it and its consumed elements are empty (`Quiet.textContent_eq`).
-/

namespace Livery

/-- A reading of a list does not change if its items are read as before, and those that are left out
read as nothing. -/
theorem flatMap_filter_eq {α β : Type} {f : α → List β} {drop : α → Bool} {l outs : List α}
    (h : List.Forall₂ (fun n out => f out = f n ∧ (drop out = true → f n = [])) l outs) :
    (outs.filter fun n => !drop n).flatMap f = l.flatMap f := by
  induction h with
  | nil => rfl
  | @cons n out _ _ hn _ ih =>
    rw [List.flatMap_cons]
    cases hdrop : drop out with
    | true => rw [List.filter_cons_of_neg (by simp [hdrop]), ih, hn.2 hdrop, List.nil_append]
    | false => rw [List.filter_cons_of_pos (by simp [hdrop]), List.flatMap_cons, ih, hn.1]

theorem flatMap_eq_of_forall₂ {α β : Type} {f : α → List β} {l outs : List α}
    (h : List.Forall₂ (fun n out => f out = f n) l outs) : outs.flatMap f = l.flatMap f := by
  induction h with
  | nil => rfl
  | cons hn _ ih => rw [List.flatMap_cons, List.flatMap_cons, hn, ih]

namespace Theme

variable {t : Theme}

/-- `out` is the dressed form of `n`, up to element classes. -/
def Becomes (t : Theme) (within : Option String) (n out : Node) : Prop :=
  ∃ reach, t.Yields within (t.markedBy reach n) out

theorem Yields.becomes {within : Option String} {n out : Node} (h : t.Yields within n out) :
    t.Becomes within n out :=
  ⟨none, h⟩

/-- Induction on a dressed form up to element classes, on the depth of the walk. -/
@[elab_as_elim]
theorem Becomes.induct (ht : t.HookFree) {motive : Option String → Node → Node → Prop}
    (leaf : ∀ within n, n.isBranch = false → motive within n n)
    (array : ∀ within nodes outs,
      List.Forall₂ (fun n out => t.Becomes within n out ∧ motive within n out) nodes outs →
      motive within (.array nodes) (.array outs))
    (part : ∀ within (e x : Element), t.runeOf? e = none → x.name = e.name →
      (∀ key, key ≠ "class" → x.attr? key = e.attr? key) →
      List.Forall₂ (fun n out => t.Becomes within n out ∧ motive within n out)
        e.children x.children →
      motive within (.element e) (.element x))
    (component : ∀ within (e : Element) type r walked, t.runeOf? e = some (type, r) →
      List.Forall₂ (fun n out => t.Becomes (some type) n out ∧ motive (some type) n out)
        (r.arranged e) walked →
      motive within (.element e) (.element ⟨e.name, r.rootAttrs type (t.blockClass r) within e,
        walked.filter fun n => !r.consumes n⟩))
    {within : Option String} {n out : Node} (h : t.Becomes within n out) :
    motive within n out := by
  obtain ⟨reach, d, hd⟩ := h
  induction d generalizing within reach n out with
  | zero => simp at hd
  | succ d ih =>
    have below : ∀ {within : Option String} (reach : Option String) {l outs : List Node},
        (l.map (t.markedBy reach)).mapM (t.walk d within) = some outs →
        List.Forall₂ (fun n out => t.Becomes within n out ∧ motive within n out) l outs := by
      intro within reach l outs hl
      rw [mapM_eq_some_iff, List.forall₂_map_left_iff] at hl
      exact hl.imp fun n out hw => ⟨⟨reach, d, hw⟩, ih reach hw⟩
    cases n with
    | array nodes =>
      rw [markedBy_of_not_element reach rfl, walk_array, Option.map_eq_some_iff] at hd
      obtain ⟨outs, houts, rfl⟩ := hd
      refine array within nodes outs (below none ?_)
      rwa [markedBy_none, List.map_id]
    | element e =>
      rcases t.runeOf?_cases e with he | ⟨type, r, he⟩
      · have hplain (l : List Node) :
            t.runeOf? { e.reachedBy reach with children := l } = none := by
          rw [← he]
          exact runeOf?_congr (e.attr?_reachedBy reach (by decide))
        rw [markedBy_part reach (isComponent_eq_false_iff.mpr he) [], walk_plain (hplain _),
          Option.map_eq_some_iff] at hd
        obtain ⟨outs, houts, rfl⟩ := hd
        exact part within e _ he (e.name_reachedBy reach)
          (fun key hkey => e.attr?_reachedBy reach hkey) (below _ houts)
      · rw [markedBy_component reach (isComponent_iff.mpr ⟨type, r, he⟩), walk_component he,
          Option.map_eq_some_iff] at hd
        obtain ⟨walked, hwalked, rfl⟩ := hd
        rw [dressed, ht.hook_eq_none he]
        exact component within e type r walked he (below (some (t.blockClass r)) hwalked)
    | _ =>
      rw [markedBy_of_not_element reach rfl, walk_leaf d within rfl] at hd
      cases hd
      exact leaf within _ rfl

/-- An element becomes an element with its name and with the property that it comes out with. -/
theorem Becomes.element (ht : t.HookFree) {within : Option String} {e : Element} {out : Node}
    (h : t.Becomes within (.element e) out) :
    ∃ x, out = .element x ∧ x.name = e.name ∧ x.attr? "property" = t.property? e := by
  obtain ⟨reach, h⟩ := h
  exact yields_markedBy_element ht h

/-- Only elements become elements. -/
theorem Becomes.isElement_eq (ht : t.HookFree) {within : Option String} {n out : Node}
    (h : t.Becomes within n out) : out.isElement = n.isElement :=
  h.induct ht (fun _ _ _ => rfl) (fun _ _ _ _ => rfl) (fun _ _ _ _ _ _ _ => rfl)
    (fun _ _ _ _ _ _ _ => rfl)

/-- What is consumed comes from a `meta` element that comes out with a property. -/
theorem Becomes.exists_meta (ht : t.HookFree) {r : Rune} {within : Option String} {n out : Node}
    (h : t.Becomes within n out) (hout : r.consumes out = true) :
    ∃ e, n = .element e ∧ e.name = "meta" ∧ (t.property? e).isSome = true := by
  obtain ⟨reach, h⟩ := h
  exact exists_meta_of_consumes ht h hout

/-- A reading of the children of a component does not change if what is walked below it is read as
before, and nothing is read from synthesized elements and from `meta` elements that may be
consumed. -/
theorem flatMap_component {β : Type} {f : Node → List β} (ht : t.HookFree) {e : Element}
    {type : String} {r : Rune} {walked : List Node}
    (h : List.Forall₂ (fun n out => t.Becomes (some type) n out ∧ f out = f n)
      (r.arranged e) walked)
    (hmeta : ∀ m, .element m ∈ r.arranged e → m.name = "meta" → (t.property? m).isSome = true →
      f (.element m) = [])
    (hsynthesized : ∀ before, ∀ n ∈ r.synthesized (r.resolve e) before, f n = [])
    (hwrapped : (r.wrapped (e.children.map r.labelled)).flatMap f = e.children.flatMap f) :
    (walked.filter fun n => !r.consumes n).flatMap f = e.children.flatMap f := by
  have hbelow : (r.arranged e).flatMap f = e.children.flatMap f := by
    rw [Rune.arranged, List.flatMap_append, List.flatMap_append, hwrapped,
      List.flatMap_eq_nil_iff.mpr (hsynthesized true),
      List.flatMap_eq_nil_iff.mpr (hsynthesized false), List.nil_append, List.append_nil]
  rw [← hbelow]
  refine flatMap_filter_eq (((List.forall₂_and_left _ _).mpr ⟨fun n hn => hn, h⟩).imp ?_)
  rintro n out ⟨hn, hbecomes, hread⟩
  refine ⟨hread, fun hout => ?_⟩
  obtain ⟨m, rfl, hname, hproperty⟩ := hbecomes.exists_meta ht hout
  exact hmeta m hn hname hproperty

/-! ## Text that stays as it is -/

/-- No component in a node has elements synthesized, and its `meta` elements that come out with a
property are empty. -/
structure Quiet (t : Theme) (n : Node) : Prop where
  bare : t.Bare n
  unscaffolded : ∀ type ∈ n.types, ∀ r, t.runes.get? type = some r → r.scaffold.entries = []

namespace Quiet

theorem of_mem_array {nodes : List Node} (h : t.Quiet (.array nodes)) {n : Node} (hn : n ∈ nodes) :
    t.Quiet n where
  bare := bare_array_iff.mp h.bare n hn
  unscaffolded := fun type htype => h.unscaffolded type <| by
    rw [Node.types_array]
    exact List.mem_flatMap.mpr ⟨n, hn, htype⟩

theorem of_mem_children {e : Element} (h : t.Quiet (.element e)) {n : Node} (hn : n ∈ e.children) :
    t.Quiet n where
  bare := (bare_element_iff.mp h.bare).2 n hn
  unscaffolded := fun type htype => h.unscaffolded type (Node.types_subset_of_mem hn htype)

theorem labelled {n : Node} (h : t.Quiet n) (r : Rune) : t.Quiet (r.labelled n) where
  bare := h.bare.labelled r
  unscaffolded := by rw [r.types_labelled]; exact h.unscaffolded

theorem synthesized_eq_nil {e : Element} {type : String} {r : Rune}
    (he : t.runeOf? e = some (type, r)) (h : t.Quiet (.element e)) (modifiers : Dict String)
    (before : Bool) : r.synthesized modifiers before = [] := by
  have hnone : r.scaffold.entries = [] :=
    h.unscaffolded type (Node.typeOf?_mem_types (typeOf?_of_runeOf? he)) r (get?_of_runeOf? he)
  simp [Rune.synthesized, hnone]

/-- What is walked below a quiet component is quiet. -/
theorem arranged {e : Element} {type : String} {r : Rune} (he : t.runeOf? e = some (type, r))
    (h : t.Quiet (.element e)) {n : Node} (hn : n ∈ r.arranged e) : t.Quiet n := by
  have hlabelled : ∀ n ∈ e.children.map r.labelled, t.Quiet n := by
    intro m hm
    obtain ⟨n, hn, rfl⟩ := List.mem_map.mp hm
    exact (h.of_mem_children hn).labelled r
  rcases Rune.mem_arranged hn with ⟨before, hn⟩ | hn
  · rw [h.synthesized_eq_nil he] at hn
    cases hn
  refine ⟨bare_wrapped r (fun m hm => (hlabelled m hm).bare) n hn, fun type htype => ?_⟩
  have hmem : type ∈ (r.wrapped (e.children.map r.labelled)).flatMap Node.types :=
    List.mem_flatMap.mpr ⟨n, hn, htype⟩
  rw [r.types_wrapped] at hmem
  obtain ⟨m, hm, htype⟩ := List.mem_flatMap.mp hmem
  exact (hlabelled m hm).unscaffolded type htype

/-- A quiet node keeps its leaves. -/
theorem leaves_eq (ht : t.HookFree) {within : Option String} {n out : Node}
    (h : t.Becomes within n out) : t.Quiet n → out.leaves = n.leaves := by
  refine h.induct ht ?leaf ?array ?part ?component
  case leaf =>
    intro within n _ _
    rfl
  case array =>
    intro within nodes outs ih hq
    rw [Node.leaves_array, Node.leaves_array]
    exact flatMap_eq_of_forall₂ (((List.forall₂_and_left _ _).mpr
      ⟨fun n hn => hq.of_mem_array hn, ih⟩).imp fun _ _ hn => hn.2.2 hn.1)
  case part =>
    intro within e x _ _ _ ih hq
    rw [Node.leaves_element, Node.leaves_element]
    exact flatMap_eq_of_forall₂ (((List.forall₂_and_left _ _).mpr
      ⟨fun n hn => hq.of_mem_children hn, ih⟩).imp fun _ _ hn => hn.2.2 hn.1)
  case component =>
    intro within e type r walked he ih hq
    have hsame : List.Forall₂ (fun n out => t.Becomes (some type) n out ∧ out.leaves = n.leaves)
        (r.arranged e) walked :=
      ((List.forall₂_and_left _ _).mpr ⟨fun n hn => hq.arranged he hn, ih⟩).imp
        fun _ _ hn => ⟨hn.2.1, hn.2.2 hn.1⟩
    rw [Node.leaves_element, Node.leaves_element]
    refine flatMap_component ht hsame (fun m hm hname hproperty => ?_) (fun before n hn => ?_) ?_
    · have hempty := (bare_element_iff.mp (hq.arranged he hm).bare).1 hname hproperty
      rw [Node.leaves_element, hempty, List.flatMap_nil]
    · rw [hq.synthesized_eq_nil he] at hn
      cases hn
    · simp only [r.leaves_wrapped, List.flatMap_map, r.leaves_labelled]

theorem textContent_eq (ht : t.HookFree) {within : Option String} {e x : Element}
    (h : t.Becomes within (.element e) (.element x)) (hq : t.Quiet (.element e)) :
    x.textContent = e.textContent := by
  rw [Element.textContent, Element.textContent, Node.textContent, Node.textContent,
    leaves_eq ht h hq]

end Quiet

end Theme

end Livery
