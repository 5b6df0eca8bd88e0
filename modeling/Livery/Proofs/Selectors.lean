import Livery.Document.Selector

/-!
# The selectors of a document

The selectors of a document are collected from its elements, sorted, and freed of repetitions. The
order is by kind and then by text (`Selector.le`), which is a total order on texts, so the sorted
list depends on what is collected alone and not on the order in which it is met
(`Node.selectors_eq_of_perm`). Nothing is lost on the way and nothing comes in
(`Node.mem_selectors_iff`).

The class selectors of an element are the words of its class (`Element.class_of_mem_selectors`).
Words are parted by white space, so the classes that a text was put together from are its words if
they hold none (`Text.words_intercalate`, `Text.words_solid`).
-/

namespace Livery

/-! ## Words -/

namespace Text

/-- A text without white space. -/
def Solid (s : String) : Prop := ∀ c ∈ s.toList, isBlank c = false

instance : DecidablePred Solid := fun s => List.decidableBAll _ s.toList

theorem Solid.append {s t : String} (hs : Solid s) (ht : Solid t) : Solid (s ++ t) := by
  intro c hc
  rw [String.toList_append] at hc
  rcases List.mem_append.mp hc with hc | hc
  · exact hs c hc
  · exact ht c hc

theorem wordsFrom_blank {c : Char} (hc : isBlank c = true) (l current : List Char) :
    wordsFrom (c :: l) current = wordsFrom [] current ++ wordsFrom l [] := by
  cases current with
  | nil => simp [wordsFrom, hc]
  | cons d current => simp [wordsFrom, hc]

theorem wordsFrom_visible {c : Char} (hc : isBlank c = false) (l current : List Char) :
    wordsFrom (c :: l) current = wordsFrom l (c :: current) := by
  cases current with
  | nil => simp [wordsFrom, hc]
  | cons d current => simp [wordsFrom, hc]

theorem wordsFrom_append (m : List Char) : ∀ l current : List Char,
    wordsFrom (l ++ ' ' :: m) current = wordsFrom l current ++ wordsFrom m []
  | [], current => wordsFrom_blank (by decide) m current
  | c :: l, current => by
    rw [List.cons_append]
    cases hc : isBlank c with
    | true =>
      rw [wordsFrom_blank hc, wordsFrom_blank hc, wordsFrom_append m l [], List.append_assoc]
    | false => rw [wordsFrom_visible hc, wordsFrom_visible hc, wordsFrom_append m l (c :: current)]

/-- A blank parts the words. -/
theorem words_append_blank (s t : String) : words (s ++ " " ++ t) = words s ++ words t := by
  have hlist : (s ++ " " ++ t).toList = s.toList ++ ' ' :: t.toList := by simp
  rw [words, hlist, wordsFrom_append]
  rfl

theorem words_intercalate : ∀ l : List String, words (" ".intercalate l) = l.flatMap words
  | [] => rfl
  | [s] => by simp
  | s :: t :: rest => by
    have hcons : " ".intercalate (s :: t :: rest) = s ++ " " ++ " ".intercalate (t :: rest) := by
      simp
    rw [hcons, words_append_blank, words_intercalate (t :: rest)]
    rfl

theorem wordsFrom_solid : ∀ {l current : List Char}, (∀ c ∈ l, isBlank c = false) →
    current.reverse ++ l ≠ [] → wordsFrom l current = [String.ofList (current.reverse ++ l)]
  | [], [], _, hne => absurd rfl hne
  | [], d :: current, _, _ => by rw [wordsFrom, List.append_nil]; simp
  | c :: l, current, h, _ => by
    have hc := h c List.mem_cons_self
    have hl : ∀ c ∈ l, isBlank c = false := fun c hc => h c (List.mem_cons_of_mem _ hc)
    rw [wordsFrom_visible hc, wordsFrom_solid hl (by simp)]
    simp

/-- A text without white space is one word. -/
theorem words_solid {s : String} (h : Solid s) (hne : s ≠ "") : words s = [s] := by
  have hnil : [].reverse ++ s.toList ≠ [] := by simpa using hne
  rw [words, wordsFrom_solid h hnil]
  simp

end Text

namespace Selector

/-! ## The order -/

theorem le_iff {s t : String} : le s t = true ↔ kind s < kind t ∨ kind s = kind t ∧ s ≤ t := by
  simp [le]

theorem le_total (s t : String) : (le s t || le t s) = true := by
  rw [Bool.or_eq_true, le_iff, le_iff]
  rcases Nat.lt_trichotomy (kind s) (kind t) with h | h | h
  · exact Or.inl (Or.inl h)
  · rcases String.le_total s t with hst | hts
    · exact Or.inl (Or.inr ⟨h, hst⟩)
    · exact Or.inr (Or.inr ⟨h.symm, hts⟩)
  · exact Or.inr (Or.inl h)

theorem le_trans (s t u : String) (hst : le s t = true) (htu : le t u = true) :
    le s u = true := by
  rw [le_iff] at hst htu ⊢
  rcases hst with hst | ⟨hst, hst'⟩ <;> rcases htu with htu | ⟨htu, htu'⟩
  · exact Or.inl (Nat.lt_trans hst htu)
  · exact Or.inl (htu ▸ hst)
  · exact Or.inl (hst ▸ htu)
  · exact Or.inr ⟨hst.trans htu, String.le_trans hst' htu'⟩

theorem le_antisymm {s t : String} (hst : le s t = true) (hts : le t s = true) : s = t := by
  rw [le_iff] at hst hts
  rcases hst with hst | ⟨hkind, hst⟩
  · rcases hts with hts | ⟨hts, -⟩ <;> omega
  · rcases hts with hts | ⟨-, hts⟩
    · omega
    · exact String.le_antisymm hst hts

/-- Texts in any order come out in the same order. -/
theorem mergeSort_eq_of_perm {l l' : List String} (h : l.Perm l') :
    l.mergeSort le = l'.mergeSort le := by
  have hperm : (l.mergeSort le).Perm (l'.mergeSort le) :=
    (l.mergeSort_perm le).trans (h.trans (l'.mergeSort_perm le).symm)
  exact hperm.eq_of_pairwise (fun _ _ _ _ => le_antisymm)
    (List.pairwise_mergeSort le_trans le_total l) (List.pairwise_mergeSort le_trans le_total l')

/-! ## Repetitions -/

theorem mem_withoutRepeats {s : String} : ∀ {l : List String}, s ∈ withoutRepeats l ↔ s ∈ l
  | [] => Iff.rfl
  | [_] => Iff.rfl
  | a :: b :: rest => by
    rw [withoutRepeats]
    split
    · rename_i hab
      rw [mem_withoutRepeats, hab]
      simp
    · rw [List.mem_cons, mem_withoutRepeats, List.mem_cons (a := s) (b := a)]

end Selector

/-- A class selector of an element is one of its classes. -/
theorem Element.class_of_mem_selectors {e : Element} {start c : String}
    (h : "." ++ c ∈ e.selectors start) : c ∈ Text.words ((e.attr? "class").getD "") := by
  rcases List.mem_append.mp h with h | h
  · obtain ⟨d, hd, heq⟩ := List.mem_map.mp h
    have hcd : d = c := by
      have hlist := congrArg String.toList heq
      simpa [String.toList_inj] using hlist
    exact hcd ▸ (List.mem_filter.mp hd).1
  · obtain ⟨p, -, heq⟩ := List.mem_map.mp h
    have hlist := congrArg String.toList heq
    simp at hlist

namespace Node

/-- A selector of a document is a selector of one of its elements. -/
theorem mem_selectors_iff {n : Node} {classPrefix s : String} :
    s ∈ n.selectors classPrefix ↔
      ∃ e ∈ n.elements, s ∈ e.selectors (classPrefix ++ "-") := by
  rw [selectors, Selector.mem_withoutRepeats, List.mem_mergeSort, List.mem_flatMap]

/-- The selectors of a document do not depend on the order in which they are met. -/
theorem selectors_eq_of_perm {n m : Node} {classPrefix : String}
    (h : (n.elements.flatMap (Element.selectors (classPrefix ++ "-"))).Perm
      (m.elements.flatMap (Element.selectors (classPrefix ++ "-")))) :
    n.selectors classPrefix = m.selectors classPrefix := by
  rw [selectors, selectors, Selector.mergeSort_eq_of_perm h]

end Node

end Livery
