/-!
# Affixes

`Text.behind? a s` is what stands behind `a` at the start of `s`, and `Text.before? b s` what stands
in front of `b` at the end of `s`. `Text.nonEmpty?` counts an empty text as a missing one.
-/

namespace Livery.Text

/-- The text, unless it is missing or empty. -/
def nonEmpty? (s : Option String) : Option String := s.filter (· ≠ "")

/-- What stands behind a text at the start, if the text starts with it. -/
def behind? (start s : String) : Option String :=
  (start.toList.isPrefixOf? s.toList).map String.ofList

/-- What stands in front of a text at the end, if the text ends with it. -/
def before? (ending s : String) : Option String :=
  (ending.toList.isSuffixOf? s.toList).map String.ofList

theorem append_of_isPrefixOf? {α : Type} [BEq α] [LawfulBEq α] {l m r : List α}
    (h : l.isPrefixOf? m = some r) : m = l ++ r := by
  induction l generalizing m with
  | nil =>
    cases h
    rfl
  | cons a l ih =>
    cases m with
    | nil => cases h
    | cons b m =>
      change (if a == b then l.isPrefixOf? m else none) = some r at h
      split at h
      · rename_i hab
        rw [beq_iff_eq] at hab
        rw [List.cons_append, ← ih h, hab]
      · simp at h

theorem isPrefixOf?_append {α : Type} [BEq α] [LawfulBEq α] :
    ∀ l r : List α, l.isPrefixOf? (l ++ r) = some r
  | [], _ => rfl
  | a :: l, r => by
    change (if a == a then l.isPrefixOf? (l ++ r) else none) = some r
    rw [if_pos (beq_self_eq_true a), isPrefixOf?_append l r]

theorem isSuffixOf?_eq_some_iff {α : Type} [BEq α] [LawfulBEq α] {l m r : List α} :
    l.isSuffixOf? m = some r ↔ m = r ++ l := by
  change (l.reverse.isPrefixOf? m.reverse).map List.reverse = some r ↔ _
  rw [Option.map_eq_some_iff]
  constructor
  · rintro ⟨s, hs, rfl⟩
    have hm := congrArg List.reverse (append_of_isPrefixOf? hs)
    simpa using hm
  · rintro rfl
    exact ⟨r.reverse, by simp [isPrefixOf?_append], List.reverse_reverse r⟩

theorem eq_append_of_behind? {start s rest : String} (h : behind? start s = some rest) :
    s = start ++ rest := by
  obtain ⟨r, hr, rfl⟩ := Option.map_eq_some_iff.1 h
  apply String.ext
  simp [append_of_isPrefixOf? hr]

/-- What stands behind a text is what was put behind it. -/
theorem behind?_append (start s : String) : behind? start (start ++ s) = some s := by
  rw [behind?, String.toList_append, isPrefixOf?_append, Option.map_some, String.ofList_toList]

theorem before?_eq_some_iff {ending s rest : String} :
    before? ending s = some rest ↔ s = rest ++ ending := by
  simp only [before?, Option.map_eq_some_iff, isSuffixOf?_eq_some_iff]
  constructor
  · rintro ⟨r, hr, rfl⟩
    apply String.ext
    simp [hr]
  · rintro rfl
    exact ⟨rest.toList, by simp, by simp⟩

end Livery.Text
