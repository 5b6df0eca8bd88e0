import Mathlib.Data.List.TakeWhile
import Livery.Theme.TextTransform

/-!
# Durations

The duration transform looks for the first `PT` and reads the time behind it : a component for each
of the units in their order, where a unit that the time does not go on with has none. `Reads` says
which components these are, and without one the text stays as it is.

`parts_of_reads` puts the parts that are written beside the components, and `exists_reads` finds
components behind every mark, so either there are components (`Says`) or the text is kept. What is
written holds no mark again (`Says.not_mem`), so the transform changes nothing a second time.
-/

namespace Livery

namespace Duration

/-! ## Times -/

/-- A component of a time : digits, and the unit as it is written behind them. -/
structure Component where
  digits : List Char
  mark : Char

/-- How a component is written. -/
def Component.text (c : Component) : String := String.ofList (c.digits ++ [c.mark])

/-- A text goes on with digits of some script, at least one, and then a unit. -/
structure GoesOn (unit : Char) (cs digits rest : List Char) : Prop where
  eq : cs = digits ++ unit :: rest
  ne_nil : digits ≠ []
  isDigit : ∀ c ∈ digits, Text.isDigit c = true

/-- The components at the start of a text, for units in their order : a unit that the text goes on
with has its component, and one that it does not go on with has none. -/
inductive Reads : List (Char × Char) → List Char → List Component → Prop
  | nil (cs : List Char) : Reads [] cs []
  | take {unit mark : Char} {units : List (Char × Char)} {cs digits rest : List Char}
      {l : List Component} (h : GoesOn unit cs digits rest) (hrest : Reads units rest l) :
      Reads ((unit, mark) :: units) cs (⟨digits, mark⟩ :: l)
  | skip {unit mark : Char} {units : List (Char × Char)} {cs : List Char} {l : List Component}
      (h : ∀ digits rest, ¬ GoesOn unit cs digits rest) (hrest : Reads units cs l) :
      Reads ((unit, mark) :: units) cs l

/-- What stands in front of the first mark of a duration, and what stands behind it. -/
structure FirstMark (cs before time : List Char) : Prop where
  eq : cs = before ++ 'P' :: 'T' :: time
  first : ∀ before' time', cs = before' ++ 'P' :: 'T' :: time' → before.length ≤ before'.length

/-- The components that a text says directly behind its first mark, at least one. -/
def Says (s : String) (l : List Component) : Prop :=
  l ≠ [] ∧ ∃ before time, FirstMark s.toList before time ∧
    Reads [('H', 'h'), ('M', 'm'), ('S', 's')] time l

/-! ## Reading a component -/

/-- The digits in front of a unit end where the digits end, because the unit is none. -/
theorem part?_eq_some_iff {unit : Char} (hunit : Text.isDigit unit = false)
    {cs digits rest : List Char} :
    part? unit cs = some (digits, rest) ↔ GoesOn unit cs digits rest := by
  constructor
  · intro h
    simp only [part?] at h
    split at h
    · rename_i d ds c rest' hdigits hrest
      split at h
      · rename_i hc
        obtain ⟨rfl, rfl⟩ := Prod.mk.inj (Option.some.inj h)
        refine ⟨?_, ?_, ?_⟩
        · rw [← hc, ← hrest, List.takeWhile_append_dropWhile]
        · rw [hdigits]
          exact List.cons_ne_nil d ds
        · exact fun x hx => List.mem_takeWhile_imp hx
      · cases h
    · cases h
  · rintro ⟨rfl, hne, hdigits⟩
    obtain ⟨d, ds, rfl⟩ := List.exists_cons_of_ne_nil hne
    have hstop : ¬ Text.isDigit unit = true := by rw [hunit]; exact Bool.false_ne_true
    have htake : ((d :: ds) ++ unit :: rest).takeWhile Text.isDigit = d :: ds := by
      rw [List.takeWhile_append_of_pos hdigits, List.takeWhile_cons_of_neg hstop, List.append_nil]
    have hdrop : ((d :: ds) ++ unit :: rest).dropWhile Text.isDigit = unit :: rest := by
      rw [List.dropWhile_append_of_pos hdigits, List.dropWhile_cons_of_neg hstop]
    simp only [part?, htake, hdrop, if_true]

/-- The parts of a time are its components, as they are written. -/
theorem parts_of_reads {units : List (Char × Char)} {cs : List Char} {l : List Component}
    (hunits : ∀ u ∈ units, Text.isDigit u.1 = false) (h : Reads units cs l) :
    (parts units cs).map String.ofList = l.map Component.text := by
  induction h with
  | nil cs => rfl
  | take hgoes _ ih =>
    rw [parts, (part?_eq_some_iff (hunits _ List.mem_cons_self)).mpr hgoes]
    have hrest := ih fun u hu => hunits u (List.mem_cons_of_mem _ hu)
    simp only [List.map_cons, hrest]
    rfl
  | @skip unit mark units cs l hnone _ ih =>
    have hpart : part? unit cs = none := by
      rw [Option.eq_none_iff_forall_ne_some]
      rintro ⟨digits, rest⟩ hp
      exact hnone digits rest ((part?_eq_some_iff (hunits _ List.mem_cons_self)).mp hp)
    rw [parts, hpart]
    exact ih fun u hu => hunits u (List.mem_cons_of_mem _ hu)

/-- There are components for all units at the start of every text, if only because there are
none. -/
theorem exists_reads : ∀ (units : List (Char × Char)) (cs : List Char), ∃ l, Reads units cs l
  | [], cs => ⟨[], .nil cs⟩
  | (unit, mark) :: units, cs => by
    by_cases h : ∃ digits rest, GoesOn unit cs digits rest
    · obtain ⟨digits, rest, hgoes⟩ := h
      obtain ⟨l, hl⟩ := exists_reads units rest
      exact ⟨_, .take hgoes hl⟩
    · obtain ⟨l, hl⟩ := exists_reads units cs
      exact ⟨l, .skip (fun digits rest hgoes => h ⟨digits, rest, hgoes⟩) hl⟩

/-! ## Finding the mark -/

theorem behindMark?_mark (rest : List Char) : behindMark? ('P' :: 'T' :: rest) = some rest := rfl

/-- Where no mark starts the search goes on. -/
theorem behindMark?_cons {c : Char} {cs : List Char} (h : ∀ rest, c :: cs ≠ 'P' :: 'T' :: rest) :
    behindMark? (c :: cs) = behindMark? cs := by
  rw [behindMark?]
  intro rest hc hcs
  exact h rest (by rw [hc, hcs])

/-- The search finds the first mark. -/
theorem behindMark?_of_firstMark {cs time : List Char} : ∀ {before : List Char},
    FirstMark cs before time → behindMark? cs = some time
  | [], h => by rw [h.eq]; rfl
  | c :: before, h => by
    obtain ⟨rfl, hfirst⟩ := h
    rw [List.cons_append, behindMark?_cons fun rest heq => ?none]
    case none =>
      exact Nat.not_succ_le_zero _ (hfirst [] rest heq)
    have hrest : FirstMark (before ++ 'P' :: 'T' :: time) before time := by
      refine ⟨rfl, fun before' time' heq => ?_⟩
      have hlonger := hfirst (c :: before') time' (by rw [List.cons_append, heq]; rfl)
      exact Nat.le_of_succ_le_succ hlonger
    exact behindMark?_of_firstMark hrest

/-- What is found stands behind the first mark. -/
theorem exists_firstMark : ∀ {cs time : List Char}, behindMark? cs = some time →
    ∃ before, FirstMark cs before time
  | [], _, h => by cases h
  | c :: cs, time, h => by
    by_cases hmark : ∃ rest, c :: cs = 'P' :: 'T' :: rest
    · obtain ⟨rest, heq⟩ := hmark
      rw [heq, behindMark?_mark, Option.some.injEq] at h
      exact ⟨[], heq.trans (by rw [h]; rfl), fun _ _ _ => Nat.zero_le _⟩
    · have hnone : ∀ rest, c :: cs ≠ 'P' :: 'T' :: rest := fun rest heq => hmark ⟨rest, heq⟩
      rw [behindMark?_cons hnone] at h
      obtain ⟨before, rfl, hfirst⟩ := exists_firstMark h
      refine ⟨c :: before, rfl, fun before' time' heq => ?_⟩
      cases before' with
      | nil => exact absurd heq (hnone time')
      | cons d before' => exact Nat.succ_le_succ (hfirst before' time' (List.cons.inj heq).2)

theorem behindMark?_eq_none {cs : List Char} (h : 'P' ∉ cs) : behindMark? cs = none := by
  rw [Option.eq_none_iff_forall_ne_some]
  intro time htime
  obtain ⟨before, heq, -⟩ := exists_firstMark htime
  exact h (heq ▸ by simp)

/-! ## What is written -/

theorem isDigit_unit : ∀ u ∈ units, Text.isDigit u.1 = false := by decide

/-- The components that a text says are written with blanks between them. -/
theorem format_eq_intercalate {s : String} {l : List Component} (h : Says s l) :
    format s = " ".intercalate (l.map Component.text) := by
  obtain ⟨hne, before, time, hmark, hreads⟩ := h
  have hparts := parts_of_reads isDigit_unit hreads
  simp only [format, behindMark?_of_firstMark hmark]
  cases hp : parts units time with
  | nil =>
    rw [hp, List.map_nil, eq_comm, List.map_eq_nil_iff] at hparts
    exact absurd hparts hne
  | cons p ps => rw [← hparts, hp]

/-- A text that says nothing is kept. -/
theorem format_kept {s : String} (h : ∀ l, ¬ Says s l) : format s = s := by
  rw [format]
  cases hmark : behindMark? s.toList with
  | none => rfl
  | some time =>
    obtain ⟨before, hfirst⟩ := exists_firstMark hmark
    obtain ⟨l, hl⟩ := exists_reads units time
    obtain rfl : l = [] := by
      by_contra hne
      exact h l ⟨hne, before, time, hfirst, hl⟩
    have hparts := parts_of_reads isDigit_unit hl
    rw [List.map_nil, List.map_eq_nil_iff] at hparts
    simp only [hparts]

theorem Reads.mem {units : List (Char × Char)} {cs : List Char} {l : List Component}
    (h : Reads units cs l) {c : Component} (hc : c ∈ l) :
    (∃ u ∈ units, c.mark = u.2) ∧ ∀ x ∈ c.digits, Text.isDigit x = true := by
  induction h with
  | nil cs => cases hc
  | take hgoes _ ih =>
    rcases List.mem_cons.mp hc with rfl | hc
    · exact ⟨⟨_, List.mem_cons_self, rfl⟩, hgoes.isDigit⟩
    · obtain ⟨⟨u, hu, hmark⟩, hdigits⟩ := ih hc
      exact ⟨⟨u, List.mem_cons_of_mem _ hu, hmark⟩, hdigits⟩
  | skip _ _ ih =>
    obtain ⟨⟨u, hu, hmark⟩, hdigits⟩ := ih hc
    exact ⟨⟨u, List.mem_cons_of_mem _ hu, hmark⟩, hdigits⟩

theorem not_mem_intercalate {c : Char} (hc : c ≠ ' ') : ∀ {l : List String},
    (∀ s ∈ l, c ∉ s.toList) → c ∉ (" ".intercalate l).toList
  | [], _ => by simp
  | [s], h => by simpa using h s List.mem_cons_self
  | s :: t :: rest, h => by
    have hrest := not_mem_intercalate hc fun x hx => h x (List.mem_cons_of_mem s hx)
    have hs := h s List.mem_cons_self
    have hcons : " ".intercalate (s :: t :: rest) = s ++ " " ++ " ".intercalate (t :: rest) := by
      simp
    rw [hcons, String.toList_append, String.toList_append, List.mem_append, List.mem_append]
    rintro ((hmem | hmem) | hmem)
    · exact hs hmem
    · exact hc (List.mem_singleton.mp hmem)
    · exact hrest hmem

/-- No mark starts in the text of components. -/
theorem Says.not_mem {s : String} {l : List Component} (h : Says s l) :
    'P' ∉ (" ".intercalate (l.map Component.text)).toList := by
  obtain ⟨-, before, time, -, hreads⟩ := h
  refine not_mem_intercalate (by decide) fun x hx => ?_
  obtain ⟨c, hc, rfl⟩ := List.mem_map.mp hx
  obtain ⟨⟨u, hu, hmark⟩, hdigits⟩ := hreads.mem hc
  rw [Component.text, String.toList_ofList, List.mem_append, List.mem_singleton]
  rintro (hdigit | hunit)
  · exact absurd (hdigits 'P' hdigit) (by decide)
  · rw [hmark] at hunit
    have hnone : ∀ v ∈ [('H', 'h'), ('M', 'm'), ('S', 's')], 'P' ≠ v.2 := by decide
    exact hnone u hu hunit

theorem format_eq_self {s : String} (h : 'P' ∉ s.toList) : format s = s := by
  rw [format, behindMark?_eq_none h]

end Duration

/--
A text that says components of a time directly behind its first `PT`, hours, minutes and seconds in
this order, comes out as these, with their digits and with single blanks between them. Every other
text comes out as it is. The transform changes nothing a second time.
-/
theorem TextTransform.duration_components (s : String) :
    (∀ l, Duration.Says s l →
      TextTransform.duration.apply s = " ".intercalate (l.map Duration.Component.text)) ∧
    ((∀ l, ¬ Duration.Says s l) → TextTransform.duration.apply s = s) ∧
    TextTransform.duration.apply (TextTransform.duration.apply s) =
      TextTransform.duration.apply s := by
  refine ⟨fun l hl => Duration.format_eq_intercalate hl, Duration.format_kept, ?_⟩
  by_cases h : ∃ l, Duration.Says s l
  · obtain ⟨l, hl⟩ := h
    simp only [TextTransform.apply]
    rw [Duration.format_eq_intercalate hl, Duration.format_eq_self hl.not_mem]
  · have hkept : Duration.format s = s := Duration.format_kept fun l hl => h ⟨l, hl⟩
    simp only [TextTransform.apply, hkept]

/-- Digits of any script are read, and what does not go on with a unit in its order is left out. -/
theorem duration_components_baking :
    Duration.Says "bake PT\u0661\u0662H5S40M" [⟨['\u0661', '\u0662'], 'h'⟩, ⟨['5'], 's'⟩] ∧
    TextTransform.duration.apply "bake PT\u0661\u0662H5S40M" = "\u0661\u0662h 5s" := by
  have hmark : Duration.behindMark? "bake PT\u0661\u0662H5S40M".toList =
      some "\u0661\u0662H5S40M".toList := by decide
  obtain ⟨before, hfirst⟩ := Duration.exists_firstMark hmark
  have hours : Duration.GoesOn 'H' "\u0661\u0662H5S40M".toList ['\u0661', '\u0662']
      "5S40M".toList :=
    ⟨by decide, by decide, List.all_eq_true.mp (by decide)⟩
  have minutes : ∀ digits rest, ¬ Duration.GoesOn 'M' "5S40M".toList digits rest := by
    intro digits rest h
    have hpart := (Duration.part?_eq_some_iff (by decide)).mpr h
    rw [show Duration.part? 'M' "5S40M".toList = none by decide] at hpart
    cases hpart
  have seconds : Duration.GoesOn 'S' "5S40M".toList ['5'] "40M".toList :=
    ⟨by decide, by decide, List.all_eq_true.mp (by decide)⟩
  have hread : Duration.Says "bake PT\u0661\u0662H5S40M"
      [⟨['\u0661', '\u0662'], 'h'⟩, ⟨['5'], 's'⟩] :=
    ⟨by decide, before, _, hfirst, .take hours (.skip minutes (.take seconds (.nil _)))⟩
  exact ⟨hread, (TextTransform.duration_components _).1 _ hread⟩

end Livery
