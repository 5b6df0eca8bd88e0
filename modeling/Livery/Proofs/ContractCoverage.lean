import Livery.Proofs.ContractElements
import Livery.Proofs.ElementClass
import Livery.Proofs.RootAttributes
import Livery.Proofs.Selectors
import Livery.Proofs.Termination

/-!
# The contract covers what dressing emits

The contract of a theme is derived from its configuration alone, and dressing never reads it. For a
theme that sets no reserved attribute by itself, whose parts of classes hold no white space
(`Theme.Regular`), and a document without classes and labels of its own (`Node.Undressed`), all
classes that dressing puts into the document are in the contract of a component instance there.

The classes of a root are put together as the contract lists them (`Theme.predicts_root_class`). An
element class comes from a label on a chain of labelled elements, and all labels on such chains
stand in the contract (`StructureEntry.Regular.along_build`, `Theme.along_labelled`). `Theme.Known`
is what stays true of all nodes that the walk meets : their classes are predicted, and their
components come from the document, with a label that they got at most (`Theme.WalkedAs`). It holds
for the document, for what is walked below a component (`Theme.known_prepared`), and so for the
whole walk (`Theme.predicted_of_yields`). The walk ends because nothing that is synthesized is a
component (`Theme.Regular.depth_lt_of_calls`).
-/

namespace Livery

open Text (nonEmpty?)

/-! ## Regular themes and documents -/

/-- The attributes that make classes, labels and components. -/
def reservedKeys : List String := ["class", labelKey, typeofKey]

/-- An entry that sets no reserved attribute and has labels without white space, like all entries
nested in it. -/
inductive StructureEntry.Regular : StructureEntry → Prop
  | mk {e : StructureEntry} (attrs : ∀ key ∈ reservedKeys, e.attrs.get? key = none)
      (label : ∀ l, e.label = some l → Text.Solid l)
      (children : ∀ c, .entry c ∈ e.children → Regular c) : Regular e

/-- A rune that sets no reserved attribute and has a block, labels and suffixes without white
space. -/
structure Rune.Regular (r : Rune) : Prop where
  block : Text.Solid r.block
  contextModifiers : ∀ s ∈ r.contextModifiers.values, Text.Solid s
  staticModifiers : ∀ s ∈ r.staticModifiers, Text.Solid s
  autoLabel : ∀ s ∈ r.autoLabel.values, Text.Solid s
  contentWrapper : ∀ w, r.contentWrapper = some w → Text.Solid w.label
  labels : ∀ p ∈ r.scaffold.entries, Text.Solid (p.2.label.getD p.1)
  entries : ∀ p ∈ r.scaffold.entries, p.2.Regular
  rootAttributes : ∀ key ∈ reservedKeys, r.rootAttributes.get? key = none

/-- A theme without hooks whose runes are regular. -/
structure Theme.Regular (t : Theme) : Prop where
  hookFree : t.HookFree
  classPrefix : Text.Solid t.classPrefix
  runes : ∀ r ∈ t.runes.values, r.Regular

/-- A document without classes and labels. -/
def Node.Undressed (n : Node) : Prop :=
  ∀ e ∈ n.elements, e.attr? "class" = none ∧ e.attr? labelKey = none

/-! ## What a contract predicts -/

/-- The class selectors in the contract of a component type, for an instance with these modifier
values. -/
inductive RuneContract.Predicts (k : RuneContract) (modifiers : Dict String) : String → Prop
  | root : Predicts k modifiers k.root
  /-- The class pattern of a modifier, with its value in the place of `{value}`. -/
  | modifier {name value stem : String} {m : ModifierContract} (hm : k.modifiers.get? name = some m)
      (hvalue : modifiers.get? name = some value)
      (hstem : m.classPattern = stem ++ "\x7bvalue\x7d") : Predicts k modifiers (stem ++ value)
  | contextModifier {parent : String} {c : SuffixContract}
      (hc : k.contextModifiers.get? parent = some c) : Predicts k modifiers c.selector
  | staticModifier {c : SuffixContract} (hc : c ∈ k.staticModifiers) :
      Predicts k modifiers c.selector
  | element {label : String} {c : ElementContract} (hc : k.elements.get? label = some c) :
      Predicts k modifiers c.selector

namespace Theme

variable {t : Theme} {n : Node}

/-- A component of a document as it is walked : as it is, or with the label that it gets as a child
of another component. -/
inductive WalkedAs (t : Theme) (n : Node) (a : Element) : Element → Prop
  | same : WalkedAs t n a a
  | labelled {p : Element} {type : String} {r : Rune} (hp : p ∈ n.elements)
      (hr : t.runeOf? p = some (type, r)) (ha : .element a ∈ p.children) :
      WalkedAs t n a (r.relabelled a)

/-- A class selector is in the contract of the rune of a component instance in the document. -/
def Predicted (t : Theme) (n : Node) (selector : String) : Prop :=
  ∃ a ∈ n.elements, ∃ a' type r k, t.WalkedAs n a a' ∧ t.runeOf? a = some (type, r) ∧
    t.contract.runes.get? type = some k ∧ k.Predicts (r.resolve a') selector

theorem get?_contract {type : String} {r : Rune} (h : t.runes.get? type = some r) :
    t.contract.runes.get? type = some (r.contract type t.classPrefix) := by
  rw [contract, Dict.get?_mapValues, h, Option.map_some]

namespace WalkedAs

variable {a a' : Element}

theorem children_eq (h : t.WalkedAs n a a') : a'.children = a.children := by
  cases h with
  | same => rfl
  | labelled => exact Rune.children_relabelled _ a

theorem attr?_eq (h : t.WalkedAs n a a') {key : String} (hkey : key ≠ labelKey) :
    a'.attr? key = a.attr? key := by
  cases h with
  | same => rfl
  | labelled => exact Rune.attr?_relabelled _ a hkey

theorem runeOf?_eq (h : t.WalkedAs n a a') : t.runeOf? a' = t.runeOf? a :=
  runeOf?_congr (h.attr?_eq (by decide))

end WalkedAs

end Theme

/-! ## The classes of a root -/

namespace Rune

/-- The label that a component gets is the one modifier value that can be new. -/
theorem resolve_relabelled (q r : Rune) {e : Element} {name value : String}
    (h : (r.resolve (q.relabelled e)).get? name = some value) :
    (r.resolve e).get? name = some value ∨ q.newLabel? e = some value := by
  simp only [get?_resolve, Option.bind_eq_some_iff] at h ⊢
  obtain ⟨m, hm, hvalue⟩ := h
  rw [relabelled] at hvalue
  cases hlabel : q.newLabel? e with
  | none =>
    rw [hlabel] at hvalue
    exact Or.inl ⟨m, hm, hvalue⟩
  | some label =>
    rw [hlabel] at hvalue
    by_cases hread : m.source = .attribute ∧ name = labelKey
    · obtain ⟨hsource, rfl⟩ := hread
      simp only [modifierValue?, hsource, Element.attr?, Element.withAttr, Dict.get?_insert,
        if_true, Option.some_or] at hvalue
      obtain ⟨hvalue, -⟩ := Option.filter_eq_some_iff.mp hvalue
      exact Or.inr hvalue
    · refine Or.inl ⟨m, hm, ?_⟩
      have hsame : modifierValue? (e.withAttr labelKey label) name m = modifierValue? e name m := by
        cases hsource : m.source with
        | metaChild => simp only [modifierValue?, hsource]; rfl
        | _ =>
          have hname : name ≠ labelKey := fun hn => hread ⟨hsource, hn⟩
          simp only [modifierValue?, hsource, Element.attr?, Element.withAttr, Dict.get?_insert,
            hname, if_false]
      exact hsame ▸ hvalue

/-- The classes of a component without classes of its own are its block class, and those with a
suffix. -/
theorem mem_classes {r : Rune} {block : String} {modifiers : Dict String} {within : Option String}
    {c : String} (hc : c ∈ r.classes block modifiers within none) :
    c = block ∨ ∃ suffix, c = block ++ "--" ++ suffix ∧
      ((∃ name, modifiers.get? name = some suffix) ∨
        (∃ parent, r.contextModifiers.get? parent = some suffix) ∨ suffix ∈ r.staticModifiers) := by
  have hmem := (List.mem_filter.mp hc).1
  simp only [Option.toList_none, List.append_nil, List.mem_cons, List.mem_map, List.mem_append,
    Option.mem_toList] at hmem
  rcases hmem with hblock | ⟨suffix, (hvalue | hcontext) | hstatic, rfl⟩
  · exact Or.inl hblock
  · obtain ⟨p, hp, rfl⟩ := List.mem_map.mp hvalue
    exact Or.inr ⟨_, rfl, Or.inl ⟨p.1, Dict.mem_entries_iff.mp hp⟩⟩
  · obtain ⟨hparent, -⟩ := Option.filter_eq_some_iff.mp hcontext
    obtain ⟨parent, -, hparent⟩ := Option.bind_eq_some_iff.mp hparent
    exact Or.inr ⟨suffix, rfl, Or.inr (Or.inl ⟨parent, hparent⟩)⟩
  · exact Or.inr ⟨suffix, rfl, Or.inr (Or.inr hstatic)⟩

end Rune

namespace Theme

variable {t : Theme} {n : Node}

/-- Modifier values without white space. -/
def SolidValues (t : Theme) (n : Node) : Prop :=
  ∀ a ∈ n.elements, ∀ type r, t.runeOf? a = some (type, r) →
    ∀ v ∈ (r.resolve a).values, Text.Solid v

/-- The texts between the parts of a class hold no white space. -/
theorem solid_mark : ∀ s ∈ ["-", "--", "__"], Text.Solid s := by decide

/-- The rune of a component is regular. -/
theorem Regular.rune (ht : t.Regular) {e : Element} {type : String} {r : Rune}
    (hr : t.runeOf? e = some (type, r)) : r.Regular :=
  ht.runes r (t.runes.mem_values_of_get? (get?_of_runeOf? hr))

/-- The block class of a rune holds no white space. -/
theorem Regular.solid_blockClass (ht : t.Regular) {r : Rune} (hr : r.Regular) :
    Text.Solid (t.blockClass r) :=
  (ht.classPrefix.append (solid_mark _ (by simp))).append hr.block

theorem Regular.solid_suffixed (ht : t.Regular) {r : Rune} (hr : r.Regular) {mark s : String}
    (hmark : mark ∈ ["-", "--", "__"]) (hs : Text.Solid s) :
    Text.Solid (t.blockClass r ++ mark ++ s) :=
  ((ht.solid_blockClass hr).append (solid_mark mark hmark)).append hs

theorem blockClass_ne_empty (r : Rune) (s : String) : t.blockClass r ++ s ≠ "" := by
  intro h
  have hlist := congrArg String.toList h
  simp [blockClass] at hlist

/-- A walked component has modifier values without white space. -/
theorem WalkedAs.solid_resolve (ht : t.Regular) (hvalues : t.SolidValues n) {a a' : Element}
    (ha : a ∈ n.elements) (h : t.WalkedAs n a a') {type : String} {r : Rune}
    (hr : t.runeOf? a = some (type, r)) {name value : String}
    (hvalue : (r.resolve a').get? name = some value) : Text.Solid value := by
  cases h with
  | same => exact hvalues a ha type r hr value ((r.resolve a).mem_values_of_get? hvalue)
  | labelled hp hq hchild =>
    rcases Rune.resolve_relabelled _ r hvalue with hvalue | hlabel
    · exact hvalues a ha type r hr value ((r.resolve a).mem_values_of_get? hvalue)
    · obtain ⟨-, key, hkey⟩ := Rune.exists_of_newLabel? hlabel
      exact (ht.rune hq).autoLabel value (Dict.mem_values_of_get? hkey)

/-- The classes of a root are in the contract of its rune. -/
theorem predicts_root_class {type : String} {r : Rune} {e : Element} {within : Option String}
    {c : String} (hc : c ∈ r.classes (t.blockClass r) (r.resolve e) within none) :
    (r.contract type t.classPrefix).Predicts (r.resolve e) ("." ++ c) := by
  rcases Rune.mem_classes hc with rfl | ⟨suffix, rfl, hsuffix⟩
  · exact .root
  · have hselector : "." ++ (t.blockClass r ++ "--" ++ suffix) =
        "." ++ t.blockClass r ++ "--" ++ suffix := by
      simp only [String.append_assoc]
    rw [hselector]
    rcases hsuffix with ⟨name, hvalue⟩ | ⟨parent, hparent⟩ | hstatic
    · obtain ⟨m, hm, -⟩ := Option.bind_eq_some_iff.mp (r.get?_resolve e name ▸ hvalue)
      have hmodifier : (r.contract type t.classPrefix).modifiers.get? name =
          some ⟨m.source, m.default, "." ++ t.blockClass r ++ "--\x7bvalue\x7d",
            Rune.dataKey name⟩ := by
        rw [Rune.contract, Dict.get?_mapValues, hm]
        rfl
      exact .modifier hmodifier hvalue (by simp [String.append_assoc])
    · have hsuffix : (r.contract type t.classPrefix).contextModifiers.get? parent =
          some ⟨suffix, "." ++ t.blockClass r ++ "--" ++ suffix⟩ := by
        rw [Rune.contract, Dict.get?_mapValues, hparent]
        rfl
      exact .contextModifier hsuffix
    · have hsuffix : (⟨suffix, "." ++ t.blockClass r ++ "--" ++ suffix⟩ : SuffixContract) ∈
          (r.contract type t.classPrefix).staticModifiers :=
        List.mem_map.mpr ⟨suffix, hstatic, rfl⟩
      exact .staticModifier hsuffix

/-- The classes of a walked root are in a contract. -/
theorem predicted_root (ht : t.Regular) (hvalues : t.SolidValues n) {a a' : Element}
    (ha : a ∈ n.elements) (hwalked : t.WalkedAs n a a') {type : String} {r : Rune}
    (hr : t.runeOf? a = some (type, r)) (hclass : a'.attr? "class" = none)
    {within : Option String} {c : String}
    (hc : c ∈ Text.words (((r.rootAttrs type (t.blockClass r) within a').get? "class").getD "")) :
    t.Predicted n ("." ++ c) := by
  have hregular := ht.rune hr
  rw [Rune.get?_class_rootAttrs (hregular.rootAttributes "class" (by decide)), Option.getD_some,
    Text.words_intercalate, hclass, List.mem_flatMap] at hc
  obtain ⟨d, hd, hcd⟩ := hc
  have hsolid : Text.Solid d := by
    rcases Rune.mem_classes hd with rfl | ⟨suffix, rfl, hsuffix⟩
    · exact ht.solid_blockClass hregular
    · refine ht.solid_suffixed hregular (by simp) ?_
      rcases hsuffix with ⟨name, hvalue⟩ | ⟨parent, hparent⟩ | hstatic
      · exact hwalked.solid_resolve ht hvalues ha hr hvalue
      · exact hregular.contextModifiers suffix (Dict.mem_values_of_get? hparent)
      · exact hregular.staticModifiers suffix hstatic
  have hne : d ≠ "" := of_decide_eq_true (List.mem_filter.mp hd).2
  rw [Text.words_solid hsolid hne, List.mem_singleton] at hcd
  subst hcd
  exact ⟨a, ha, a', type, r, _, hwalked, hr, get?_contract (get?_of_runeOf? hr),
    predicts_root_class hd⟩

/-! ## What is known of walked nodes -/

/-- A node in which all classes outside components are predicted, and all components are those of a
document. -/
inductive Known (t : Theme) (n : Node) : Node → Prop
  | leaf {m : Node} (hm : m.isBranch = false) : Known t n m
  | array {nodes : List Node} (hnodes : ∀ m ∈ nodes, Known t n m) : Known t n (.array nodes)
  | part {e : Element} (he : t.isComponent e = false)
      (hclass : ∀ c ∈ Text.words ((e.attr? "class").getD ""), t.Predicted n ("." ++ c))
      (hchildren : ∀ m ∈ e.children, Known t n m) : Known t n (.element e)
  | component {a a' : Element} (ha : a ∈ n.elements) (hwalked : t.WalkedAs n a a')
      (hc : t.isComponent a' = true) : Known t n (.element a')

/-- Nodes of the document itself are known. -/
theorem known_of_elements (hn : n.Undressed) {m : Node} (hm : m.elements ⊆ n.elements) :
    t.Known n m := by
  induction m using Node.induct with
  | leaf m hleaf => exact .leaf hleaf
  | array nodes ih =>
    rw [Node.elements_array] at hm
    exact .array fun m hmem => ih m hmem fun e he => hm (List.mem_flatMap.mpr ⟨m, hmem, he⟩)
  | element e ih =>
    rw [Node.elements_element] at hm
    have he : e ∈ n.elements := hm List.mem_cons_self
    cases hc : t.isComponent e with
    | true => exact .component he .same hc
    | false =>
      refine .part hc (fun c hcls => ?_) fun m hmem => ih m hmem fun x hx =>
        hm (List.mem_cons_of_mem _ (List.mem_flatMap.mpr ⟨m, hmem, hx⟩))
      rw [(hn e he).1] at hcls
      cases hcls

/-- All labels on the chain of labelled parts from a node on are of a kind. -/
inductive Along (t : Theme) (P : String → Prop) : Node → Prop
  /-- The chain does not start at all. -/
  | stop {m : Node} (hm : ∀ block, t.marked block m = m) : Along t P m
  | label {e : Element} {l : String} (he : t.isComponent e = false)
      (hl : nonEmpty? e.label? = some l) (here : P l) (below : ∀ m ∈ e.children, Along t P m) :
      Along t P (.element e)

theorem mem_words_elementClass {e : Element} {block label c : String}
    (hc : c ∈ Text.words (e.elementClass block label)) :
    c ∈ Text.words (block ++ "__" ++ label) ∨ c ∈ Text.words ((e.attr? "class").getD "") := by
  rw [Element.elementClass] at hc
  cases hclass : nonEmpty? (e.attr? "class") with
  | none =>
    rw [hclass] at hc
    exact Or.inl hc
  | some authored =>
    obtain ⟨hauthored, -⟩ := Option.filter_eq_some_iff.mp hclass
    rw [hclass] at hc
    rw [hauthored, Option.getD_some]
    exact List.mem_append.mp (Text.words_append_blank _ _ ▸ hc)

/-- Element classes are predicted if they are for all labels on the chain. -/
theorem Known.marked {block : String} {P : String → Prop}
    (hP : ∀ l, P l → ∀ c ∈ Text.words (block ++ "__" ++ l), t.Predicted n ("." ++ c)) {m : Node}
    (ha : t.Along P m) (hm : t.Known n m) : t.Known n (t.marked block m) := by
  induction ha with
  | stop hstop => rwa [hstop]
  | @label e l he hl here below ih =>
    cases hm with
    | leaf hleaf => cases hleaf
    | component _ _ hc => rw [hc] at he; cases he
    | part _ hclass hchildren =>
      rw [marked_labelled block he hl]
      refine .part ?_ (fun c hc => ?_) ?_
      · rw [isComponent_classed, he]
      · rw [Element.attr?, Element.withAttr, Dict.get?_insert, if_pos rfl, Option.getD_some] at hc
        rcases mem_words_elementClass hc with hown | hauthored
        · exact hP l here c hown
        · exact hclass c hauthored
      · intro m hmem
        obtain ⟨m', hm', rfl⟩ := List.mem_map.mp hmem
        exact ih m' hm' (hchildren m' hm')

end Theme

/-! ## Synthesized elements -/

namespace StructureEntry

variable {modifiers : Dict String}

/-- A built element has no class and no type, and its label is that of its entry. -/
theorem Regular.attr?_build {e : StructureEntry} (he : e.Regular) {name : String} {x : Element}
    (hx : e.build modifiers name = some x) {key : String} (hkey : key ∈ reservedKeys) :
    x.attr? key = if key = labelKey then some (e.label.getD name) else none := by
  obtain ⟨hattrs, -, -⟩ := he
  rw [Element.attr?, (build_cases hx).1, builtAttrs, Dict.get?_extend_entries, Dict.get?_mapValues,
    hattrs key hkey, Option.map_none, Option.none_or, Dict.get?_insert]
  rfl

theorem Regular.isComponent_build (t : Theme) {e : StructureEntry} (he : e.Regular) {name : String}
    {x : Element} (hx : e.build modifiers name = some x) : t.isComponent x = false := by
  rw [Theme.isComponent_eq_false_iff, Theme.runeOf?, Element.typeOf?,
    he.attr?_build hx (by decide)]
  rfl

/-- The children of a built element are texts, and elements that regular entries build. -/
theorem Regular.mem_children_build {e : StructureEntry} (he : e.Regular) {name : String}
    {x : Element} (hx : e.build modifiers name = some x) {m : Node} (hm : m ∈ x.children) :
    (∃ s, m = .text s) ∨ ∃ c y, .entry c ∈ e.children ∧ c.Regular ∧
      c.build modifiers (c.label.getD "") = some y ∧ m = .element y := by
  obtain ⟨-, -, hchildren⟩ := he
  rcases (build_cases hx).2 m hm with hs | ⟨c, y, hc, hy, hm⟩
  · exact Or.inl hs
  · exact Or.inr ⟨c, y, hc, hchildren c hc, hy, hm⟩

/-- No component is built. -/
theorem Regular.nearest_build (t : Theme) (e : StructureEntry) : e.Regular →
    ∀ {name : String} {x : Element}, e.build modifiers name = some x →
      t.nearest (.element x) = [] := by
  induction e using induct with
  | h e ih =>
    intro he name x hx
    rw [Theme.nearest_plain (he.isComponent_build t hx), List.flatMap_eq_nil_iff]
    intro m hm
    rcases he.mem_children_build hx hm with ⟨s, rfl⟩ | ⟨c, y, hc, hregular, hy, rfl⟩
    · exact Theme.nearest_leaf rfl
    · exact ih c hc hregular hy

/-- Built elements are known. -/
theorem Regular.known_build {t : Theme} (n : Node) (e : StructureEntry) : e.Regular →
    ∀ {name : String} {x : Element}, e.build modifiers name = some x → t.Known n (.element x) := by
  induction e using induct with
  | h e ih =>
    intro he name x hx
    refine .part (he.isComponent_build t hx) (fun c hc => ?_) fun m hm => ?_
    · rw [he.attr?_build hx (by decide)] at hc
      cases hc
    · rcases he.mem_children_build hx hm with ⟨s, rfl⟩ | ⟨c, y, hc, hregular, hy, rfl⟩
      · exact .leaf rfl
      · exact ih c hc hregular hy

/-- The labels on the chain from a built element on are listed. -/
theorem Regular.along_build (t : Theme) {P : String → Prop} (e : StructureEntry) : e.Regular →
    ∀ {name : String} {x : Element}, e.build modifiers name = some x →
      (∀ l, nonEmpty? (some (e.label.getD name)) = some l → Text.Solid l ∧ e.Lists P l) →
      t.Along (fun l => Text.Solid l ∧ P l) (.element x) := by
  induction e using induct with
  | h e ih =>
    intro he name x hx hlists
    have hlabel : x.label? = some (e.label.getD name) := he.attr?_build hx (by decide)
    cases hl : nonEmpty? x.label? with
    | none => exact .stop fun block => Theme.marked_unlabelled block hl
    | some l =>
      obtain ⟨hsolid, hlist⟩ := hlists l (hlabel ▸ hl)
      cases hlist with
      | mk here below =>
        refine .label (he.isComponent_build t hx) hl ⟨hsolid, here⟩ fun m hm => ?_
        rcases he.mem_children_build hx hm with ⟨s, rfl⟩ | ⟨c, y, hc, hregular, hy, rfl⟩
        · exact .stop fun block => Theme.marked_of_not_element block rfl
        · refine ih c hc hregular hy fun l' hl' => ?_
          have hl'' : nonEmpty? c.label = some l' := by
            cases hlabel : c.label with
            | none => rw [hlabel] at hl'; cases hl'
            | some l => rwa [hlabel] at hl'
          obtain ⟨hsome, -⟩ := Option.filter_eq_some_iff.mp hl''
          cases hregular with
          | mk _ hlabel _ => exact ⟨hlabel l' hsome, below c l' hc hl''⟩

end StructureEntry

namespace Theme

variable {t : Theme} {n : Node}

/-! ## What is walked below a component -/

/-- The elements below an element of a document are in the document. -/
theorem elements_subset {a : Element} (ha : a ∈ n.elements) :
    (Node.element a).elements ⊆ n.elements := by
  have step : ∀ n : Node, (∀ m ∈ n.contents, a ∈ m.elements →
      (Node.element a).elements ⊆ m.elements) → a ∈ n.elements →
      (Node.element a).elements ⊆ n.elements := by
    intro n ih ha
    rcases Node.mem_elements_iff.mp ha with rfl | ⟨m, hm, hmem⟩
    · exact List.Subset.refl _
    · exact fun x hx => Node.mem_elements_iff.mpr (Or.inr ⟨m, hm, ih m hm hmem hx⟩)
  induction n using Node.induct with
  | leaf n hn => exact step n (by simp [Node.contents_leaf hn]) ha
  | array nodes ih => exact step _ ih ha
  | element e ih => exact step _ ih ha

theorem elements_subset_of_child {a : Element} (ha : a ∈ n.elements) {m : Node}
    (hm : m ∈ a.children) : m.elements ⊆ n.elements := by
  refine List.Subset.trans (fun x hx => ?_) (elements_subset ha)
  exact Node.mem_elements_iff.mpr (Or.inr ⟨m, hm, hx⟩)

/-- No chain of labels starts in the document itself. -/
theorem along_of_elements (hn : n.Undressed) (P : String → Prop) {m : Node}
    (hm : m.elements ⊆ n.elements) : t.Along P m := by
  refine .stop fun block => ?_
  cases m with
  | element e =>
    have hlabel : e.label? = none := (hn e (hm (Node.mem_elements_iff.mpr (Or.inl rfl)))).2
    exact marked_unlabelled block (by rw [hlabel]; rfl)
  | _ => exact marked_of_not_element block rfl

section Component

variable {a : Element} {type : String} {r : Rune}

/-- A child of a component is known, with the label that it gets. -/
theorem known_labelled (hn : n.Undressed) (ha : a ∈ n.elements)
    (hr : t.runeOf? a = some (type, r)) {m : Node} (hm : m ∈ a.children) :
    t.Known n (r.labelled m) := by
  have hsub := elements_subset_of_child ha hm
  cases m with
  | element e =>
    have he : e ∈ n.elements := hsub (Node.mem_elements_iff.mpr (Or.inl rfl))
    rw [r.labelled_element]
    cases hc : t.isComponent e with
    | true =>
      exact .component he (.labelled ha hr hm) (by rw [isComponent_relabelled, hc])
    | false =>
      refine .part (by rw [isComponent_relabelled, hc]) (fun c hcls => ?_) fun x hx => ?_
      · rw [r.attr?_relabelled e (by decide), (hn e he).1] at hcls
        cases hcls
      · rw [r.children_relabelled] at hx
        exact known_of_elements hn (elements_subset_of_child he hx)
  | _ =>
    rw [r.labelled_of_not_element rfl]
    exact known_of_elements hn hsub

/-- A chain of labels that starts at a child has the label that it got. -/
theorem along_labelled (hn : n.Undressed) (ha : a ∈ n.elements) {P : String → Prop}
    (hP : ∀ l ∈ r.autoLabel.values, P l) {m : Node} (hm : m ∈ a.children) :
    t.Along P (r.labelled m) := by
  have hsub := elements_subset_of_child ha hm
  cases m with
  | element e =>
    have he : e ∈ n.elements := hsub (Node.mem_elements_iff.mpr (Or.inl rfl))
    rw [r.labelled_element]
    cases hc : t.isComponent e with
    | true => exact .stop fun block => marked_component block (by rw [isComponent_relabelled, hc])
    | false =>
      cases hl : r.newLabel? e with
      | none =>
        rw [Rune.relabelled, hl]
        exact along_of_elements hn P hsub
      | some l =>
        obtain ⟨hne, key, hkey⟩ := Rune.exists_of_newLabel? hl
        have hlabel : nonEmpty? (r.relabelled e).label? = some l := by
          rw [Rune.relabelled, hl]
          simp [Element.label?, Element.attr?, Element.withAttr, Dict.get?_insert, nonEmpty?,
            Option.filter, hne]
        refine .label (by rw [isComponent_relabelled, hc]) hlabel
          (hP l (Dict.mem_values_of_get? hkey)) fun x hx => ?_
        rw [r.children_relabelled] at hx
        exact along_of_elements hn P (elements_subset_of_child he hx)
  | _ =>
    rw [r.labelled_of_not_element rfl]
    exact along_of_elements hn P hsub

/-- The content of a component is known, and so are the labels on the chains that start at it. -/
theorem known_wrapped (hn : n.Undressed) (ha : a ∈ n.elements)
    (hr : t.runeOf? a = some (type, r)) {P : String → Prop}
    (hP : ∀ l ∈ r.autoLabel.values, P l) (hw : ∀ w, r.contentWrapper = some w → P w.label)
    {m : Node} (hm : m ∈ r.wrapped (a.children.map r.labelled)) : t.Known n m ∧ t.Along P m := by
  have hchildren : ∀ x ∈ a.children.map r.labelled, t.Known n x ∧ t.Along P x := by
    intro x hx
    obtain ⟨child, hchild, rfl⟩ := List.mem_map.mp hx
    exact ⟨known_labelled hn ha hr hchild, along_labelled hn ha hP hchild⟩
  cases hwrapper : r.contentWrapper with
  | none =>
    rw [Rune.wrapped_none hwrapper] at hm
    exact hchildren m hm
  | some w =>
    rw [Rune.wrapped_some hwrapper, List.mem_singleton] at hm
    subst hm
    have hpart := isComponent_around t w (a.children.map r.labelled)
    refine ⟨.part hpart (fun c hc => by cases hc) fun x hx => (hchildren x hx).1, ?_⟩
    cases hl : nonEmpty? (w.around (a.children.map r.labelled)).label? with
    | none => exact .stop fun block => marked_unlabelled block hl
    | some l =>
      obtain ⟨hlabel, -⟩ := Option.filter_eq_some_iff.mp hl
      obtain rfl : w.label = l := Option.some.inj hlabel
      exact .label hpart hl (hw w hwrapper) fun x hx => (hchildren x hx).2

/-- The element classes of a label that stands in the contract are predicted. -/
theorem predicted_label (ht : t.Regular) (ha : a ∈ n.elements) (hr : t.runeOf? a = some (type, r))
    {l : String} (hsolid : Text.Solid l) (hl : r.Labels (t.blockClass r) l) {c : String}
    (hc : c ∈ Text.words (t.blockClass r ++ "__" ++ l)) : t.Predicted n ("." ++ c) := by
  have hclass : Text.Solid (t.blockClass r ++ "__" ++ l) :=
    ht.solid_suffixed (ht.rune hr) (by simp) hsolid
  have hne : t.blockClass r ++ "__" ++ l ≠ "" := by
    rw [String.append_assoc]
    exact blockClass_ne_empty r _
  rw [Text.words_solid hclass hne, List.mem_singleton] at hc
  obtain ⟨k, hk, hselector⟩ := hl
  have hlisted : (r.contract type t.classPrefix).elements.get? l = some k := hk
  have hpredicts : (r.contract type t.classPrefix).Predicts (r.resolve a) k.selector :=
    .element hlisted
  have heq : "." ++ c = k.selector := by
    rw [hc, hselector, elementSelector]
    simp only [String.append_assoc]
  exact ⟨a, ha, a, type, r, _, .same, hr, get?_contract (get?_of_runeOf? hr), heq ▸ hpredicts⟩

/-- What is walked below a component is known. -/
theorem known_prepared (ht : t.Regular) (hn : n.Undressed) (ha : a ∈ n.elements) {a' : Element}
    (hwalked : t.WalkedAs n a a') (hr : t.runeOf? a = some (type, r)) :
    ∀ m ∈ t.prepared r a', t.Known n m := by
  have hregular := ht.rune hr
  obtain ⟨hscaffold, hwrapper, hauto⟩ := r.labels_of_rune (t.blockClass r)
  intro m hm
  rcases mem_prepared hm with ⟨before, x, hx, rfl⟩ | ⟨x, hx, rfl⟩
  · obtain ⟨p, hp, y, hy, rfl⟩ := Rune.exists_build_of_mem_synthesized hx
    have halong := StructureEntry.Regular.along_build t p.2 (hregular.entries p hp) hy
      fun l hl => by
        obtain ⟨hlabel, -⟩ := Option.filter_eq_some_iff.mp hl
        obtain rfl := Option.some.inj hlabel
        exact ⟨hregular.labels p hp, hscaffold p hp⟩
    exact Known.marked (fun l hl c hc => predicted_label ht ha hr hl.1 hl.2 hc) halong
      (StructureEntry.Regular.known_build n p.2 (hregular.entries p hp) hy)
  · rw [hwalked.children_eq] at hx
    obtain ⟨hknown, halong⟩ := known_wrapped hn ha hr
      (P := fun l => Text.Solid l ∧ r.Labels (t.blockClass r) l)
      (fun l hl => ⟨hregular.autoLabel l hl, hauto l hl⟩)
      (fun w hw => ⟨hregular.contentWrapper w hw, hwrapper w hw⟩) hx
    exact hknown.marked (fun l hl c hc => predicted_label ht ha hr hl.1 hl.2 hc) halong

end Component

/-! ## The whole walk -/

/-- All classes of a dressed node are in a contract. -/
theorem predicted_of_yields (ht : t.Regular) (hn : n.Undressed) (hvalues : t.SolidValues n)
    {within : Option String} {m out : Node} (h : t.Yields within m out) :
    t.Known n m → ∀ x ∈ out.elements, ∀ c ∈ Text.words ((x.attr? "class").getD ""),
      t.Predicted n ("." ++ c) := by
  refine h.induct ?leaf ?array ?plain ?component
  case leaf =>
    intro within m hm _ x hx
    rw [Node.elements_leaf hm] at hx
    cases hx
  case array =>
    intro within nodes outs ih hknown x hx
    rw [Node.elements_array, List.mem_flatMap] at hx
    obtain ⟨out, hout, hx⟩ := hx
    obtain ⟨m, hm, -, hout⟩ := exists_item_of_mem ih hout
    cases hknown with
    | leaf hleaf => cases hleaf
    | array hnodes => exact hout (hnodes m hm) x hx
  case plain =>
    intro within e outs he ih hknown x hx
    cases hknown with
    | leaf hleaf => cases hleaf
    | component _ _ hc => rw [isComponent_eq_false_iff.mpr he] at hc; cases hc
    | part _ hclass hchildren =>
      rw [Node.elements_element] at hx
      rcases List.mem_cons.mp hx with rfl | hx
      · exact hclass
      · obtain ⟨out, hout, hx⟩ := List.mem_flatMap.mp hx
        obtain ⟨m, hm, -, hout⟩ := exists_item_of_mem ih hout
        exact hout (hchildren m hm) x hx
  case component =>
    intro within e type r outs he ih hknown x hx
    cases hknown with
    | leaf hleaf => cases hleaf
    | part hc => rw [isComponent_iff.mpr ⟨type, r, he⟩] at hc; cases hc
    | @component a _ ha hwalked _ =>
      rw [hwalked.runeOf?_eq] at he
      have hclass : e.attr? "class" = none := by
        rw [hwalked.attr?_eq (by decide)]
        exact (hn a ha).1
      rw [dressed, ht.hookFree.hook_eq_none he, Node.elements_element] at hx
      rcases List.mem_cons.mp hx with rfl | hx
      · exact fun c hc => predicted_root ht hvalues ha hwalked he hclass hc
      · obtain ⟨out, hout, hx⟩ := List.mem_flatMap.mp hx
        obtain ⟨m, hm, -, hout⟩ := exists_item_of_mem ih (List.mem_filter.mp hout).1
        exact hout (known_prepared ht hn ha hwalked he m hm) x hx

/-! ## The walk ends -/

/-- Regular themes synthesize no components, so a component calls those in its content alone. -/
theorem Regular.depth_lt_of_calls (ht : t.Regular) {e e' : Element} (h : t.Calls e e') :
    (Node.element e').depth < (Node.element e).depth := by
  obtain ⟨type, r, hr, -⟩ := id h
  refine (Theme.depth_lt_of_calls hr (fun before x hx => ?_) h).1
  obtain ⟨p, hp, y, hy, rfl⟩ := Rune.exists_build_of_mem_synthesized hx
  exact StructureEntry.Regular.nearest_build t p.2 ((ht.rune hr).entries p hp) hy

/-- A regular theme dresses all documents. -/
theorem Regular.exists_transform (ht : t.Regular) (within : Option String) (n : Node) :
    ∃ out, t.transform within n = some out := by
  have hendless : ¬ t.Endless n :=
    not_endless_of_calls (Q := fun _ => True)
      (fun _ _ _ hcall => ⟨trivial, ht.depth_lt_of_calls hcall⟩) fun _ _ => trivial
  exact Option.isSome_iff_exists.mp ((ends_iff within).mp (ends_reach hendless))

/-! ## Coverage -/

/--
A theme without hooks that sets no class, label or type by itself dresses all documents without
classes and labels, and each class selector of what comes out is in the contract of a component
instance in the document, if there is no white space in the parts of classes.
-/
theorem selectors_predicted (ht : t.Regular) (hn : n.Undressed) (hvalues : t.SolidValues n)
    (within : Option String) :
    ∃ out, t.transform within n = some out ∧
      ∀ c, "." ++ c ∈ out.selectors t.classPrefix → t.Predicted n ("." ++ c) := by
  obtain ⟨out, hout⟩ := ht.exists_transform within n
  refine ⟨out, hout, fun c hc => ?_⟩
  obtain ⟨x, hx, hselector⟩ := Node.mem_selectors_iff.mp hc
  exact predicted_of_yields ht hn hvalues (transform_eq_some_iff.mp hout)
    (known_of_elements hn (List.Subset.refl _)) x hx c (Element.class_of_mem_selectors hselector)

end Theme

/-- A bar with an icon in front of the content. -/
def barEntry : StructureEntry where
  tag := "div"
  before := true
  children := [.entry { tag := "b", label := some "icon" }]

/-- Panels are flat, may have a tone, get a bar in front of their body, and label their headings. -/
def panelRune : Rune where
  block := "panel"
  modifiers := .ofList [("tone", {})]
  staticModifiers := ["flat"]
  autoLabel := .ofList [("h2", "title")]
  contentWrapper := some ⟨"div", "body"⟩
  scaffold := .ofList [("bar", barEntry)]

/-- A theme of panels. -/
def panelTheme : Theme where
  classPrefix := "rf"
  runes := .ofList [("Panel", panelRune)]

/-- The heading of a panel. -/
def heading : Element := ⟨"h2", ∅, [.text "a"]⟩

/-- A panel with a heading. -/
def panel : Element := ⟨"div", .ofList [("typeof", "Panel")], [.element heading]⟩

/-- An element of a dressed panel. -/
def panelPart (tag label : String) (children : List Node) : Element :=
  ⟨tag, .ofList [(labelKey, label), ("class", "rf-panel__" ++ label)], children⟩

/-- A dressed panel with a heading. -/
def dressedPanel : Node :=
  .element ⟨"div", .ofList [("typeof", "Panel"), ("class", "rf-panel rf-panel--flat"),
      ("data-rune", "panel")],
    [.element (panelPart "div" "bar" [.element (panelPart "b" "icon" [])]),
      .element (panelPart "div" "body" [.element (panelPart "h2" "title" heading.children)])]⟩

theorem regular_barEntry : barEntry.Regular := by
  refine .mk (by decide) nofun fun c hc => ?_
  obtain rfl := StructureChild.entry.inj (List.mem_singleton.mp hc)
  refine .mk (by decide) ?_ nofun
  rintro l ⟨⟩
  decide

theorem regular_panelRune : panelRune.Regular where
  block := by decide
  contextModifiers := by decide
  staticModifiers := by decide
  autoLabel := by decide
  contentWrapper := by
    rintro w ⟨⟩
    decide
  labels := by decide
  entries := by
    intro p hp
    rw [List.mem_singleton.mp hp]
    exact regular_barEntry
  rootAttributes := by decide

/-- The icon in the bar of a panel is predicted. -/
theorem selectors_predicted_panel :
    panelTheme.Regular ∧ (Node.element panel).Undressed ∧ panelTheme.SolidValues (.element panel) ∧
    panelTheme.transform none (.element panel) = some dressedPanel ∧
    ".rf-panel__icon" ∈ dressedPanel.selectors "rf" ∧
    panelTheme.Predicted (.element panel) ".rf-panel__icon" := by
  have hrunes : ∀ r ∈ panelTheme.runes.values, r = panelRune := fun _ => List.mem_singleton.mp
  have hregular : panelTheme.Regular := {
    hookFree := fun r hr => by rw [hrunes r hr]; rfl
    classPrefix := by decide
    runes := fun r hr => by rw [hrunes r hr]; exact regular_panelRune }
  have helements : (Node.element panel).elements = [panel, heading] := by cbv
  have hundressed : (Node.element panel).Undressed := by
    intro e he
    rw [helements, List.mem_pair] at he
    rcases he with rfl | rfl <;> exact ⟨rfl, rfl⟩
  have hsolid : panelTheme.SolidValues (.element panel) := by
    intro e he type r hr
    rw [helements, List.mem_pair] at he
    rcases he with rfl | rfl
    · cases hr
      decide
    · cases hr
  have hdressed : panelTheme.transform none (.element panel) = some dressedPanel := by
    have hwalk : panelTheme.walk 5 none (.element panel) = some dressedPanel := by cbv
    exact Theme.transform_eq_some_iff.mpr ⟨5, hwalk⟩
  have hicon : ".rf-panel__icon" ∈ dressedPanel.selectors "rf" := by
    have hpart : (panelPart "b" "icon" []).selectors "rf-" =
        [".rf-panel__icon", "[data-name=\"icon\"]"] := by cbv
    refine Node.mem_selectors_iff.mpr ⟨panelPart "b" "icon" [], ?_, ?_⟩
    · simp only [dressedPanel, Node.elements_element, List.flatMap_cons]
      exact List.mem_cons_of_mem _ (List.mem_cons_of_mem _ List.mem_cons_self)
    · have hstart : "rf" ++ "-" = "rf-" := by decide
      rw [hstart, hpart]
      exact List.mem_cons_self
  obtain ⟨out, hout, hpredicted⟩ := Theme.selectors_predicted hregular hundressed hsolid none
  obtain rfl := Option.some.inj (hdressed.symm.trans hout)
  have hclass : "." ++ "rf-panel__icon" = ".rf-panel__icon" := by decide
  exact ⟨hregular, hundressed, hsolid, hdressed, hicon,
    hclass ▸ hpredicted "rf-panel__icon" (hclass ▸ hicon)⟩

end Livery
