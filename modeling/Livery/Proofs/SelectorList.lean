import Mathlib.Data.List.Infix
import Livery.Proofs.Selectors
import Livery.Proofs.Texts

/-!
# The list of selectors

What a style sheet could target in a document (`Node.Targets`) is a set of selectors, told from the
elements that occur in it (`Element.Occurs`), the words of their classes (`Text.IsWord`) and their
data attributes. The list of selectors has just these members, and it is strictly sorted, so it is
determined by them (`Selector.eq_of_mem_iff`).

So the list does not depend on how siblings are arranged (`Node.Rearranged`) : on their order, on
repetitions, and on the arrays that they are grouped into.
-/

namespace Livery

/-! ## Words -/

namespace Text

/-- Whether some characters are a word of others : a run of visible ones that goes on as far as
possible in both directions. -/
structure IsWord (w l : List Char) : Prop where
  ne_nil : w ≠ []
  visible : ∀ c ∈ w, isBlank c = false
  between : ∃ before after, l = before ++ (w ++ after) ∧
    (∀ c, before.getLast? = some c → isBlank c = true) ∧
    ∀ c, after.head? = some c → isBlank c = true

/-- Visible characters are one word. -/
theorem isWord_of_visible {w l : List Char} (h : ∀ c ∈ l, isBlank c = false) :
    IsWord w l ↔ w ≠ [] ∧ w = l := by
  constructor
  · rintro ⟨hne, -, before, after, rfl, hbefore, hafter⟩
    have hnil : before = [] := by
      rw [← List.getLast?_eq_none_iff, Option.eq_none_iff_forall_ne_some]
      intro c hc
      have hvisible := h c (List.mem_append_left _ (List.mem_of_getLast? hc))
      rw [hbefore c hc] at hvisible
      cases hvisible
    have hnil' : after = [] := by
      rw [← List.head?_eq_none_iff, Option.eq_none_iff_forall_ne_some]
      intro c hc
      have hvisible :=
        h c (List.mem_append_right _ (List.mem_append_right _ (List.mem_of_head? hc)))
      rw [hafter c hc] at hvisible
      cases hvisible
    exact ⟨hne, by rw [hnil, hnil', List.nil_append, List.append_nil]⟩
  · rintro ⟨hne, rfl⟩
    exact ⟨hne, h, [], [], by simp, by simp, by simp⟩

section

variable {b : Char} {w l m : List Char}

theorem IsWord.append_blank (h : IsWord w l) (hb : isBlank b = true) (m : List Char) :
    IsWord w (l ++ b :: m) := by
  obtain ⟨hne, hvisible, before, after, rfl, hbefore, hafter⟩ := h
  refine ⟨hne, hvisible, before, after ++ b :: m, by simp, hbefore, fun d hd => ?_⟩
  cases after with
  | nil =>
    cases hd
    exact hb
  | cons c after => exact hafter d hd

theorem IsWord.blank_append (h : IsWord w m) (hb : isBlank b = true) (l : List Char) :
    IsWord w (l ++ b :: m) := by
  obtain ⟨hne, hvisible, before, after, rfl, hbefore, hafter⟩ := h
  refine ⟨hne, hvisible, l ++ b :: before, after, by simp, fun d hd => ?_, hafter⟩
  rw [List.getLast?_append, List.getLast?_cons] at hd
  cases hlast : before.getLast? with
  | none =>
    rw [hlast] at hd
    cases hd
    exact hb
  | some c =>
    rw [hlast] at hd
    cases hd
    exact hbefore _ hlast

/-- A blank parts the words. -/
theorem isWord_append_blank (hb : isBlank b = true) :
    IsWord w (l ++ b :: m) ↔ IsWord w l ∨ IsWord w m := by
  refine ⟨?_, fun h => h.elim (·.append_blank hb m) (·.blank_append hb l)⟩
  rintro ⟨hne, hvisible, before, after, heq, hbefore, hafter⟩
  have hb' : b ∉ w := fun hmem => by
    rw [hvisible b hmem] at hb
    cases hb
  rcases List.append_eq_append_iff.mp heq with ⟨mid, rfl, hrest⟩ | ⟨mid, rfl, hrest⟩
  · -- the word begins behind the blank
    cases mid with
    | nil =>
      obtain ⟨c, w, rfl⟩ := List.exists_cons_of_ne_nil hne
      rw [List.nil_append, List.cons_append, List.cons.injEq] at hrest
      exact absurd (hrest.1 ▸ List.mem_cons_self) hb'
    | cons c mid =>
      rw [List.cons_append, List.cons.injEq] at hrest
      refine Or.inr ⟨hne, hvisible, mid, after, hrest.2, fun d hd => hbefore d ?_, hafter⟩
      rw [List.getLast?_append, List.getLast?_cons, hd]
      rfl
  · -- the word begins in front of it, so it ends there too
    rcases List.append_eq_append_iff.mp hrest with ⟨last, rfl, hlast⟩ | ⟨last, rfl, hlast⟩
    · refine Or.inl ⟨hne, hvisible, before, last, rfl, hbefore, fun d hd => hafter d ?_⟩
      rw [hlast, List.head?_append, hd]
      rfl
    · cases last with
      | nil => exact Or.inl ⟨hne, hvisible, before, [], by simp, hbefore, by simp⟩
      | cons c last =>
        rw [List.cons_append, List.cons.injEq] at hlast
        exact absurd (by simp [hlast.1]) hb'

end

theorem mem_wordsFrom_iff {w : String} : ∀ {l current : List Char},
    (∀ c ∈ current, isBlank c = false) →
      (w ∈ wordsFrom l current ↔ IsWord w.toList (current.reverse ++ l))
  | [], current, h => by
    rw [List.append_nil, isWord_of_visible fun c hc => h c (List.mem_reverse.mp hc)]
    cases current with
    | nil => simp [wordsFrom]
    | cons d current =>
      rw [wordsFrom, List.mem_singleton, String.ext_iff, String.toList_ofList]
      · exact ⟨fun heq => ⟨by simp [heq], heq⟩, And.right⟩
      · exact List.cons_ne_nil d current
  | c :: l, current, h => by
    cases hc : isBlank c with
    | true =>
      rw [wordsFrom_blank hc, List.mem_append, mem_wordsFrom_iff h,
        mem_wordsFrom_iff (List.forall_mem_nil _), isWord_append_blank hc, List.append_nil,
        List.reverse_nil, List.nil_append]
    | false =>
      rw [wordsFrom_visible hc, mem_wordsFrom_iff (List.forall_mem_cons.mpr ⟨hc, h⟩),
        List.reverse_cons, List.append_assoc, List.singleton_append]

/-- The words of a text. -/
theorem mem_words_iff {w s : String} : w ∈ words s ↔ IsWord w.toList s.toList := by
  rw [words, mem_wordsFrom_iff (by simp), List.reverse_nil, List.nil_append]

end Text

/-! ## The order -/

namespace Selector

/-- Whether a selector comes before another : by kind, then by text. -/
def Before (s t : String) : Prop := kind s < kind t ∨ kind s = kind t ∧ s < t

theorem Before.ne {s t : String} (h : Before s t) : s ≠ t := by
  rintro rfl
  rcases h with h | ⟨-, h⟩
  · exact Nat.lt_irrefl _ h
  · exact String.lt_irrefl s h

theorem before_of_le {s t : String} (h : le s t = true) (hne : s ≠ t) : Before s t := by
  rcases le_iff.mp h with h | ⟨hkind, h⟩
  · exact Or.inl h
  · refine Or.inr ⟨hkind, String.not_le.mp fun hts => hne (String.le_antisymm h hts)⟩

theorem Before.le {s t : String} (h : Before s t) : le s t = true :=
  le_iff.mpr (h.imp_right fun h =>
    ⟨h.1, (String.le_total s t).resolve_right (String.not_le.mpr h.2)⟩)

theorem beginsWith_iff {start s : String} :
    beginsWith start s = true ↔ ∃ rest, s = start ++ rest := by
  rw [beginsWith, List.isPrefixOf_iff_prefix]
  constructor
  · rintro ⟨rest, hrest⟩
    exact ⟨String.ofList rest, String.ext (by simp [hrest])⟩
  · rintro ⟨rest, rfl⟩
    exact ⟨rest.toList, by simp⟩

theorem occursIn_iff {part : List Char} : ∀ {l : List Char}, occursIn part l = true ↔ part <:+: l
  | [] => by simp [occursIn]
  | c :: l => by
    rw [occursIn, Bool.or_eq_true, List.isPrefixOf_iff_prefix, occursIn_iff, List.infix_cons_iff]

/-- A class is that of an element, of a modifier or of a block, by its separators. -/
theorem kind_class (c : String) : kind ("." ++ c) =
    if ['_', '_'] <:+: c.toList then 2 else if ['-', '-'] <:+: c.toList then 1 else 0 := by
  have hdot : ∀ d, d ≠ '.' → (occursIn [d, d] ("." ++ c).toList = true ↔ [d, d] <:+: c.toList) := by
    intro d hd
    have hlist : ("." ++ c).toList = '.' :: c.toList := by simp
    rw [occursIn_iff, hlist, List.infix_cons_iff, List.cons_prefix_cons]
    exact ⟨fun h => h.resolve_left fun h => hd h.1, Or.inr⟩
  have hattribute : beginsWith "[" ("." ++ c) = false := by
    rw [beginsWith, String.toList_append]
    rfl
  simp only [kind, hattribute, hdot '_' (by decide), hdot '-' (by decide)]
  rfl

theorem kind_attribute (key value : String) : kind ("[" ++ key ++ "=\"" ++ value ++ "\"]") = 3 := by
  rw [kind, if_pos]
  exact beginsWith_iff.mpr ⟨key ++ "=\"" ++ value ++ "\"]", by simp only [String.append_assoc]⟩

/-! ## Strictly sorted lists -/

/-- Without repetitions a sorted list is strictly sorted. -/
theorem pairwise_withoutRepeats : ∀ {l : List String}, l.Pairwise (fun s t => le s t = true) →
    (withoutRepeats l).Pairwise Before
  | [], _ => .nil
  | [s], _ => List.pairwise_singleton _ s
  | s :: t :: rest, h => by
    obtain ⟨hs, hrest⟩ := List.pairwise_cons.mp h
    have ih := pairwise_withoutRepeats hrest
    rw [withoutRepeats]
    split
    · exact ih
    · rename_i hst
      refine List.pairwise_cons.mpr ⟨fun u hu => ?_, ih⟩
      have hmem := mem_withoutRepeats.mp hu
      refine before_of_le (hs u hmem) fun hsu => hst ?_
      -- a later copy would stand behind `t`, but it is not behind it in the order
      subst hsu
      rcases List.mem_cons.mp hmem with heq | hmem
      · exact heq
      · exact le_antisymm (hs t List.mem_cons_self) ((List.pairwise_cons.mp hrest).1 s hmem)

/-- Strictly sorted lists with the same members are equal. -/
theorem eq_of_mem_iff {l l' : List String} (hl : l.Pairwise Before) (hl' : l'.Pairwise Before)
    (h : ∀ s, s ∈ l ↔ s ∈ l') : l = l' := by
  have hperm : l.Perm l' :=
    (List.perm_ext_iff_of_nodup (hl.imp Before.ne) (hl'.imp Before.ne)).mpr h
  exact hperm.eq_of_pairwise (fun _ _ _ _ => le_antisymm) (hl.imp Before.le) (hl'.imp Before.le)

end Selector

/-! ## Members -/

/-- Whether an element stands somewhere in a document. -/
inductive Element.Occurs (e : Element) : Node → Prop
  | here : Occurs e (.element e)
  | child {parent : Element} {n : Node} (hn : n ∈ parent.children) (h : Occurs e n) :
      Occurs e (.element parent)
  | sibling {nodes : List Node} {n : Node} (hn : n ∈ nodes) (h : Occurs e n) :
      Occurs e (.array nodes)

theorem Node.mem_elements_iff_occurs {n : Node} {e : Element} : e ∈ n.elements ↔ e.Occurs n := by
  constructor
  · induction n using Node.induct with
    | leaf n hn => simp [elements_leaf hn]
    | array nodes ih =>
      rw [elements_array, List.mem_flatMap]
      rintro ⟨m, hm, he⟩
      exact .sibling hm (ih m hm he)
    | element x ih =>
      rw [elements_element, List.mem_cons, List.mem_flatMap]
      rintro (rfl | ⟨m, hm, he⟩)
      · exact .here
      · exact .child hm (ih m hm he)
  · intro h
    induction h with
    | here => exact mem_elements_iff.mpr (.inl rfl)
    | child hn _ ih => exact mem_elements_iff.mpr (.inr ⟨_, hn, ih⟩)
    | sibling hn _ ih => exact mem_elements_iff.mpr (.inr ⟨_, hn, ih⟩)

/-- What a style sheet could target in a document, where class names begin with a prefix. -/
inductive Node.Targets (classPrefix : String) (n : Node) : String → Prop
  /-- A word of the class of an element that begins with the prefix and a hyphen. -/
  | ofClass {e : Element} {text c : String} (he : e.Occurs n) (htext : e.attr? "class" = some text)
      (hc : Text.IsWord c.toList text.toList) (hstart : ∃ rest, c = classPrefix ++ "-" ++ rest) :
      Targets classPrefix n ("." ++ c)
  /-- A data attribute of an element with its value. -/
  | ofAttribute {e : Element} {key value : String} (he : e.Occurs n)
      (hvalue : e.attr? key = some value) (hkey : ∃ rest, key = "data-" ++ rest) :
      Targets classPrefix n ("[" ++ key ++ "=\"" ++ value ++ "\"]")

theorem Element.mem_selectors_iff {e : Element} {start s : String} : s ∈ e.selectors start ↔
    (∃ text c, e.attr? "class" = some text ∧ c ∈ Text.words text ∧ Selector.beginsWith start c ∧
      "." ++ c = s) ∨
    ∃ key value, e.attr? key = some value ∧ Selector.beginsWith "data-" key ∧
      "[" ++ key ++ "=\"" ++ value ++ "\"]" = s := by
  rw [selectors, List.mem_append, List.mem_map, List.mem_map]
  refine or_congr ?classes ?attributes
  case classes =>
    cases e.attr? "class" with
    | none => simp [Text.words, Text.wordsFrom]
    | some text => simp [and_assoc]
  case attributes =>
    simp only [List.mem_filter, Prod.exists, Dict.mem_entries_iff, and_assoc]
    rfl

namespace Node

/-- The list has the selectors of the document as its members. -/
theorem mem_selectors_iff_targets {n : Node} {classPrefix s : String} :
    s ∈ n.selectors classPrefix ↔ n.Targets classPrefix s := by
  simp only [mem_selectors_iff, mem_elements_iff_occurs, Element.mem_selectors_iff,
    Selector.beginsWith_iff, Text.mem_words_iff]
  constructor
  · rintro ⟨e, he, ⟨text, c, htext, hc, hstart, rfl⟩ | ⟨key, value, hvalue, hkey, rfl⟩⟩
    · exact .ofClass he htext hc hstart
    · exact .ofAttribute he hvalue hkey
  · intro h
    cases h with
    | ofClass he htext hc hstart => exact ⟨_, he, .inl ⟨_, _, htext, hc, hstart, rfl⟩⟩
    | ofAttribute he hvalue hkey => exact ⟨_, he, .inr ⟨_, _, hvalue, hkey, rfl⟩⟩

theorem pairwise_selectors (n : Node) (classPrefix : String) :
    (n.selectors classPrefix).Pairwise Selector.Before :=
  Selector.pairwise_withoutRepeats
    (List.pairwise_mergeSort Selector.le_trans Selector.le_total _)

/-! ## Arrangements of siblings -/

/-- Lists of siblings with the same content, arranged in different ways at any depth. -/
inductive Rearranged : List Node → List Node → Prop
  | refl (l : List Node) : Rearranged l l
  | symm {l m : List Node} (h : Rearranged l m) : Rearranged m l
  | trans {l m k : List Node} (h : Rearranged l m) (h' : Rearranged m k) : Rearranged l k
  /-- Siblings in another order. -/
  | reordered {l m : List Node} (h : l.Perm m) : Rearranged l m
  /-- A sibling that is there twice. -/
  | repeated (n : Node) (l : List Node) : Rearranged (n :: n :: l) (n :: l)
  /-- Siblings that are grouped into an array. -/
  | grouped (l m : List Node) : Rearranged (.array l :: m) (l ++ m)
  | behind (n : Node) {l m : List Node} (h : Rearranged l m) : Rearranged (n :: l) (n :: m)
  /-- The children of an element in another arrangement. -/
  | inside (e : Element) {children : List Node} (h : Rearranged e.children children)
      (l : List Node) : Rearranged (.element e :: l) (.element { e with children } :: l)

/-- However siblings are arranged, elements with the same attributes occur among them. -/
theorem Rearranged.exists_attrs_iff {l m : List Node} (h : Rearranged l m) (P : Attrs → Prop) :
    (∃ e ∈ l.flatMap elements, P e.attrs) ↔ ∃ e ∈ m.flatMap elements, P e.attrs := by
  induction h with
  | refl l => exact Iff.rfl
  | symm _ ih => exact ih.symm
  | trans _ _ ih ih' => exact ih.trans ih'
  | reordered h => simp only [(h.flatMap_right elements).mem_iff]
  | repeated n l => simp
  | grouped l m => simp [elements_array]
  | behind n _ ih => simp only [List.flatMap_cons, List.mem_append, or_and_right, exists_or, ih]
  | inside e _ l ih =>
    simp only [List.flatMap_cons, elements_element, List.mem_append, List.mem_cons, or_and_right,
      exists_or, ih, exists_eq_left]

/-- The selectors are those of the attributes that occur. -/
theorem mem_selectors_iff_attrs {n : Node} {classPrefix s : String} :
    s ∈ n.selectors classPrefix ↔ ∃ e ∈ [n].flatMap elements,
      s ∈ Element.selectors (classPrefix ++ "-") ⟨"", e.attrs, []⟩ := by
  rw [mem_selectors_iff, List.flatMap_singleton]
  rfl

end Node

/--
The selectors of a document are a strictly sorted list : blocks, then modifiers, then elements, then
attributes, and by text within each of these. So none of them is repeated. The members are exactly
what can be targeted in the document, and siblings can be reordered, repeated and grouped into
arrays at any depth without any change to the list.
-/
theorem Node.selectors_exact (n : Node) (classPrefix : String) :
    (n.selectors classPrefix).Pairwise Selector.Before ∧ (n.selectors classPrefix).Nodup ∧
    (∀ c, Selector.kind ("." ++ c) =
      if ['_', '_'] <:+: c.toList then 2 else if ['-', '-'] <:+: c.toList then 1 else 0) ∧
    (∀ key value, Selector.kind ("[" ++ key ++ "=\"" ++ value ++ "\"]") = 3) ∧
    (∀ s, s ∈ n.selectors classPrefix ↔ n.Targets classPrefix s) ∧
    ∀ m, Rearranged [n] [m] → n.selectors classPrefix = m.selectors classPrefix := by
  have hsorted := n.pairwise_selectors classPrefix
  refine ⟨hsorted, hsorted.imp Selector.Before.ne, Selector.kind_class, Selector.kind_attribute,
    fun s => mem_selectors_iff_targets, fun m h => ?_⟩
  refine Selector.eq_of_mem_iff hsorted (m.pairwise_selectors classPrefix) fun s => ?_
  rw [mem_selectors_iff_attrs, mem_selectors_iff_attrs]
  exact h.exists_attrs_iff fun attrs => s ∈ Element.selectors (classPrefix ++ "-") ⟨"", attrs, []⟩

/-- A list of steps. -/
def stepList (children : List Node) : Element :=
  ⟨"ol", .ofList [("class", "rf-steps wide rf-steps--dense")], children⟩

/-- A step. -/
def stepItem : Node :=
  .element ⟨"li", .ofList [("data-name", "step"), ("class", "rf-steps__step")], []⟩

/-- A step that is there twice, in an array behind a text, has the selectors of one step. -/
theorem Node.selectors_exact_steps :
    Rearranged [.element (stepList [stepItem, .text "a"])]
      [.element (stepList [.array [.text "a", stepItem, stepItem]])] ∧
    (Node.element (stepList [stepItem, .text "a"])).selectors "rf" =
      (Node.element (stepList [.array [.text "a", stepItem, stepItem]])).selectors "rf" ∧
    (Node.element (stepList [stepItem, .text "a"])).selectors "rf" =
      [".rf-steps", ".rf-steps--dense", ".rf-steps__step", "[data-name=\"step\"]"] := by
  have hchildren : Rearranged [stepItem, .text "a"] [.array [.text "a", stepItem, stepItem]] := by
    refine .trans (.reordered (List.Perm.swap _ _ _)) (.symm (.trans (.grouped _ []) ?_))
    exact .behind (.text "a") (.repeated stepItem [])
  have h := Rearranged.inside (stepList [stepItem, .text "a"]) hchildren []
  obtain ⟨-, -, -, -, -, hsame⟩ := selectors_exact (.element (stepList [stepItem, .text "a"])) "rf"
  refine ⟨h, hsame _ h, ?_⟩
  have hcollected : (Node.element (stepList [stepItem, .text "a"])).elements.flatMap
      (Element.selectors ("rf" ++ "-")) =
      [".rf-steps", ".rf-steps--dense", ".rf-steps__step", "[data-name=\"step\"]"] := by cbv
  rw [selectors, hcollected, List.mergeSort_of_pairwise]
  · rfl
  · decide

end Livery
