/-!
# Segments

`Text.split` cuts a text at every occurrence of a separator: paths into data at their dots, URLs at
their slashes. There is always one segment more than there are separators. `split_snoc` says that
appending a separator and a text without one appends that text as a segment, and `split_append` says
the same of what stands in front of the first separator.
-/

namespace Livery.Text

/-- The pieces between the separators. -/
def splitChars (separator : Char) : List Char → List (List Char)
  | [] => [[]]
  | c :: rest =>
    if c = separator then [] :: splitChars separator rest
    else
      match splitChars separator rest with
      | [] => [[c]]
      | piece :: pieces => (c :: piece) :: pieces

/-- The segments of a text between the separators. -/
def split (separator : Char) (s : String) : List String :=
  (splitChars separator s.toList).map String.ofList

theorem splitChars_ne_nil (separator : Char) (cs : List Char) : splitChars separator cs ≠ [] := by
  cases cs with
  | nil => simp [splitChars]
  | cons c rest =>
    rw [splitChars]
    split
    · simp
    · split <;> simp

theorem splitChars_of_not_mem {separator : Char} {cs : List Char} (h : separator ∉ cs) :
    splitChars separator cs = [cs] := by
  induction cs with
  | nil => rfl
  | cons c rest ih =>
    simp only [List.mem_cons, not_or] at h
    rw [splitChars, if_neg (fun e => h.1 e.symm), ih h.2]

theorem splitChars_snoc {separator : Char} (cs : List Char) {ds : List Char}
    (h : separator ∉ ds) :
    splitChars separator (cs ++ separator :: ds) = splitChars separator cs ++ [ds] := by
  induction cs with
  | nil => simp [splitChars, splitChars_of_not_mem h]
  | cons c rest ih =>
    rw [List.cons_append, splitChars, splitChars, ih]
    split
    · rfl
    · cases hs : splitChars separator rest with
      | nil => exact absurd hs (splitChars_ne_nil separator rest)
      | cons piece pieces => rfl

theorem splitChars_append {separator : Char} {cs : List Char} (h : separator ∉ cs)
    (ds : List Char) :
    splitChars separator (cs ++ separator :: ds) = cs :: splitChars separator ds := by
  induction cs with
  | nil => rw [List.nil_append, splitChars, if_pos rfl]
  | cons c rest ih =>
    obtain ⟨hc, hrest⟩ := List.ne_and_not_mem_of_not_mem_cons h
    rw [List.cons_append, splitChars, if_neg hc.symm, ih hrest]

theorem split_snoc {separator : Char} (s : String) {t : String} (h : separator ∉ t.toList) :
    split separator (s ++ String.singleton separator ++ t) = split separator s ++ [t] := by
  simp [split, splitChars_snoc, h]

theorem split_of_not_mem {separator : Char} {s : String} (h : separator ∉ s.toList) :
    split separator s = [s] := by
  simp [split, splitChars_of_not_mem h]

theorem split_append {separator : Char} {s : String} (h : separator ∉ s.toList) (t : String) :
    split separator (s ++ String.singleton separator ++ t) = s :: split separator t := by
  simp [split, splitChars_append h]

end Livery.Text
