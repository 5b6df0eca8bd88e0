import Mathlib.Data.Int.Notation
import Mathlib.Data.Nat.Notation
import Mathlib.Data.List.Basic
import Livery.Calendar.Format
import Livery.Proofs.PathText

/-!
# Dates in texts

A text writes a date (`Date.Writes`) by four digits of the year, behind a sign or without one, and
two digits each of the month and of the day. These are the texts that are read as dates
(`Date.parse?_eq_some_iff`), and a format leaves all other texts as they are.

A format that shows the whole year, the day, and the month by more than its first letter
(`DateFormat.TellsApart`) gives different dates different texts. The parts stand between separators
that do not occur in them, so each part can be read off : the day of the week ends at the first
comma, the month at the first blank or slash, the day at the next comma or slash, and the rest is
the year with its sign.
-/

namespace Livery

/-! ## Digits and separators -/

/-- A list is cut in one way at the first place of an element. -/
theorem cut_unique {α : Type} {c : α} : ∀ {l m r s : List α}, c ∉ l → c ∉ m →
    l ++ c :: r = m ++ c :: s → l = m ∧ r = s
  | [], [], _, _, _, _, h => ⟨rfl, (List.cons.inj h).2⟩
  | [], y :: m, _, _, _, hm, h => absurd (List.cons.inj h).1 (List.ne_of_not_mem_cons hm)
  | x :: l, [], _, _, hl, _, h => absurd (List.cons.inj h).1.symm (List.ne_of_not_mem_cons hl)
  | x :: l, y :: m, r, s, hl, hm, h => by
    obtain ⟨rfl, hrest⟩ := List.cons.inj h
    obtain ⟨rfl, rfl⟩ := cut_unique (List.not_mem_of_not_mem_cons hl)
      (List.not_mem_of_not_mem_cons hm) hrest
    exact ⟨rfl, rfl⟩

namespace Text

/-- A word of so many digits. -/
structure IsNumeral (n : ℕ) (cs : List Char) : Prop where
  length : cs.length = n
  isDigit : ∀ c ∈ cs, c.isDigit = true

theorem repr_injective {n m : ℕ} (h : (Nat.repr n).toList = (Nat.repr m).toList) : n = m := by
  rw [← digitsValue_repr n, h, digitsValue_repr]

theorem not_mem_repr {c : Char} (hc : c.isDigit = false) (n : ℕ) : c ∉ (Nat.repr n).toList := by
  rw [Nat.repr_eq_ofList_toDigits, String.toList_ofList]
  exact Path.not_mem_toDigits hc n

end Text

namespace Date

/-! ## Texts that write dates -/

/-- A sign in front of a year, or none, and what the year is multiplied by. -/
inductive Sign : List Char → ℤ → Prop
  | none : Sign [] 1
  | plus : Sign ['+'] 1
  | minus : Sign ['-'] (-1)

/-- A list of characters writes a date without a sign, where the year is multiplied by a unit. -/
def WritesDigits (unit : ℤ) (cs : List Char) (d : Date) : Prop :=
  ∃ year month day, Text.IsNumeral 4 year ∧ Text.IsNumeral 2 month ∧ Text.IsNumeral 2 day ∧
    cs = year ++ '-' :: (month ++ '-' :: day) ∧ d.year = unit * Text.digitsValue year ∧
    (d.month : ℕ) + 1 = Text.digitsValue month ∧ d.day = Text.digitsValue day

/-- A text writes a date : a sign or none, then the digits. -/
def Writes (s : String) (d : Date) : Prop :=
  ∃ sign unit cs, Sign sign unit ∧ s.toList = sign ++ cs ∧ WritesDigits unit cs d

theorem eq_of_parts {d e : Date} (hyear : d.year = e.year) (hmonth : d.month = e.month)
    (hday : d.day = e.day) : d = e := by
  cases d; cases e; simp_all

theorem ofParts?_eq_some_iff {year : ℤ} {month day : ℕ} {d : Date} :
    ofParts? year month day = some d ↔
      d.year = year ∧ (d.month : ℕ) + 1 = month ∧ d.day = day := by
  constructor
  · intro h
    rw [ofParts?] at h
    split at h
    · rename_i hm
      dsimp only at h
      split at h
      · obtain rfl := Option.some.inj h
        exact ⟨rfl, Nat.sub_add_cancel hm.1, rfl⟩
      · cases h
    · cases h
  · rintro ⟨rfl, rfl, rfl⟩
    have hm : 1 ≤ (d.month : ℕ) + 1 ∧ (d.month : ℕ) + 1 ≤ 12 := by omega
    rw [ofParts?, dif_pos hm]
    exact dif_pos d.valid

theorem WritesDigits.exists_cons {unit : ℤ} {cs : List Char} {d : Date}
    (h : WritesDigits unit cs d) : ∃ c rest, cs = c :: rest ∧ c.isDigit = true := by
  obtain ⟨year, month, day, hyear, -, -, rfl, -⟩ := h
  obtain ⟨c, rest, rfl⟩ := List.exists_cons_of_length_eq_add_one hyear.length
  exact ⟨c, _, rfl, hyear.isDigit c List.mem_cons_self⟩

theorem ofDigits?_eq_some_iff {negative : Bool} {cs : List Char} {d : Date} :
    ofDigits? negative cs = some d ↔ WritesDigits (if negative then -1 else 1) cs d := by
  have hunit : ∀ n : ℕ, (if negative then -(n : ℤ) else n) = (if negative then -1 else 1) * n := by
    intro n
    cases negative <;> simp
  constructor
  · intro h
    unfold ofDigits? at h
    split at h
    · rename_i y₁ y₂ y₃ y₄ m₁ m₂ d₁ d₂
      obtain ⟨hdigits, h⟩ := Option.ite_none_right_eq_some.mp h
      simp only [List.all_cons, List.all_nil, Bool.and_true, Bool.and_eq_true] at hdigits
      obtain ⟨hyear, hmonth, hday⟩ := ofParts?_eq_some_iff.mp h
      refine ⟨[y₁, y₂, y₃, y₄], [m₁, m₂], [d₁, d₂], ⟨rfl, ?_⟩, ⟨rfl, ?_⟩, ⟨rfl, ?_⟩, rfl,
        hyear.trans (hunit _), hmonth, hday⟩
      all_goals simp [hdigits]
    · cases h
  · rintro ⟨year, month, day, ⟨hyears, hy⟩, ⟨hmonths, hm⟩, ⟨hdays, hd⟩, rfl, hyear, hmonth, hday⟩
    obtain ⟨y₁, year, rfl⟩ := List.exists_cons_of_length_eq_add_one hyears
    obtain ⟨y₂, y₃, y₄, rfl⟩ := List.length_eq_three.mp (Nat.succ.inj hyears)
    obtain ⟨m₁, m₂, rfl⟩ := List.length_eq_two.mp hmonths
    obtain ⟨d₁, d₂, rfl⟩ := List.length_eq_two.mp hdays
    refine (if_pos ?_).trans (ofParts?_eq_some_iff.mpr ⟨hyear.trans (hunit _).symm, hmonth, hday⟩)
    simp_all

theorem parse?_eq_some_iff {s : String} {d : Date} : parse? s = some d ↔ Writes s d := by
  rw [parse?]
  constructor
  · intro h
    split at h
    · rename_i rest hs
      exact ⟨['-'], -1, rest, .minus, hs, ofDigits?_eq_some_iff.mp h⟩
    · rename_i rest hs
      exact ⟨['+'], 1, rest, .plus, hs, ofDigits?_eq_some_iff.mp h⟩
    · exact ⟨[], 1, s.toList, .none, rfl, ofDigits?_eq_some_iff.mp h⟩
  · rintro ⟨sign, unit, cs, hsign, hs, hcs⟩
    rw [hs]
    cases hsign with
    | plus => exact ofDigits?_eq_some_iff.mpr hcs
    | minus => exact ofDigits?_eq_some_iff.mpr hcs
    | none =>
      -- the first character is a digit, so it is not taken for a sign
      obtain ⟨c, rest, rfl, hc⟩ := hcs.exists_cons
      split
      · rename_i heq
        obtain ⟨rfl, -⟩ := List.cons.inj heq
        cases hc
      · rename_i heq
        obtain ⟨rfl, -⟩ := List.cons.inj heq
        cases hc
      · exact ofDigits?_eq_some_iff.mpr hcs

end Date

/-! ## Parts of a date -/

namespace NumberStyle

/-- A number is read off its digits, with a zero in front or without one. -/
theorem digitsValue_apply (style : NumberStyle) (n : ℕ) :
    Text.digitsValue (style.apply n).toList = n := by
  cases style with
  | numeric => exact Text.digitsValue_repr n
  | twoDigit =>
    rw [apply]
    split
    · rw [String.toList_append]
      exact Text.digitsValue_repr n
    · exact Text.digitsValue_repr n

theorem apply_injective (style : NumberStyle) : Function.Injective style.apply := by
  intro n m h
  rw [← digitsValue_apply style n, h, digitsValue_apply]

theorem not_mem_apply {c : Char} (hc : c.isDigit = false) (style : NumberStyle) (n : ℕ) :
    c ∉ (style.apply n).toList := by
  have hrepr := Text.not_mem_repr hc n
  have hzero : c ∉ "0".toList := fun h => by
    rw [List.mem_singleton.mp h] at hc
    cases hc
  cases style with
  | numeric => exact hrepr
  | twoDigit =>
    rw [apply]
    split
    · rw [String.toList_append, List.mem_append, not_or]
      exact ⟨hzero, hrepr⟩
    · exact hrepr

theorem toList_applyYear (year : ℤ) : (applyYear .numeric year).toList =
    (if year < 0 then ['-'] else []) ++ (Nat.repr year.natAbs).toList := by
  rw [applyYear, String.toList_append]
  split <;> rfl

/-- A year is read off its sign and its digits. -/
theorem applyYear_injective : Function.Injective (applyYear .numeric) := by
  have hsign : ∀ n m : ℕ, '-' :: (Nat.repr n).toList ≠ (Nat.repr m).toList := fun n m h =>
    Text.not_mem_repr (by decide) m (h ▸ List.mem_cons_self)
  intro y z h
  have hlist := congrArg String.toList h
  simp only [toList_applyYear] at hlist
  by_cases hy : y < 0 <;> by_cases hz : z < 0 <;>
    simp only [hy, hz, if_true, if_false, List.singleton_append, List.nil_append] at hlist
  · have habs := Text.repr_injective (List.cons.inj hlist).2
    omega
  · exact absurd hlist (hsign _ _)
  · exact absurd hlist.symm (hsign _ _)
  · have habs := Text.repr_injective hlist
    omega

end NumberStyle

namespace NameStyle

theorem month_injective {style : NameStyle} (h : style ≠ .narrow) :
    Function.Injective fun m => style.apply (Calendar.monthNames.get m) := by
  have hlong : ∀ m n, long.apply (Calendar.monthNames.get m) =
      long.apply (Calendar.monthNames.get n) → m = n := by decide
  have hshort : ∀ m n, short.apply (Calendar.monthNames.get m) =
      short.apply (Calendar.monthNames.get n) → m = n := by decide
  cases style with
  | long => exact hlong
  | short => exact hshort
  | narrow => exact absurd rfl h

theorem not_mem_month (style : NameStyle) (m : Fin 12) :
    ' ' ∉ (style.apply (Calendar.monthNames.get m)).toList := by
  cases style <;> decide +revert

theorem not_mem_weekday (style : NameStyle) (day : Fin 7) :
    ',' ∉ (style.apply (Calendar.weekdayNames.get day)).toList := by
  cases style <;> decide +revert

end NameStyle

namespace DateFormat

variable {f : DateFormat}

/-! ## Dates told apart -/

/-- A format shows the whole year, the day, and the month by more than its first letter. -/
structure TellsApart (f : DateFormat) : Prop where
  year : f.year = some .numeric
  day : ∃ style, f.day = some style
  month : ∃ style, f.month = some style ∧ style ≠ .name .narrow

theorem standard_tellsApart : standard.TellsApart := ⟨rfl, ⟨_, rfl⟩, _, rfl, by decide⟩

/-- A format puts a date together from the month, the day and the year : a separator ends the month,
another one ends the day, and a gap may follow before the year. -/
structure Assembles (f : DateFormat) (month : Fin 12 → String) (day : NumberStyle)
    (monthEnd dayEnd : Char) (gap : List Char) : Prop where
  injective : Function.Injective month
  not_mem_month : ∀ m, monthEnd ∉ (month m).toList
  isDigit_dayEnd : dayEnd.isDigit = false
  toList_body : ∀ d, (f.body d).toList = (month d.month).toList ++ monthEnd ::
    ((day.apply d.day).toList ++ dayEnd :: (gap ++ (NumberStyle.applyYear .numeric d.year).toList))

/-- Numbers have slashes between them. -/
theorem assembles_number {style day : NumberStyle} (hmonth : f.month = some (.number style))
    (hday : f.day = some day) (hyear : f.year = some .numeric) :
    f.Assembles (fun m => style.apply (m + 1)) day '/' '/' [] where
  injective m n h := Fin.ext (Nat.succ.inj (style.apply_injective h))
  not_mem_month m := NumberStyle.not_mem_apply (by decide) _ _
  isDigit_dayEnd := by decide
  toList_body d := by
    have hjoin : ∀ s t u : String, "/".intercalate [s, t, u] = s ++ "/" ++ t ++ "/" ++ u :=
      fun _ _ _ => rfl
    rw [body, hmonth, hday, hyear]
    simp [hjoin]

/-- The name of a month has a blank behind it, and the day a comma. -/
theorem assembles_name {style : NameStyle} {day : NumberStyle}
    (hmonth : f.month = some (.name style)) (hstyle : style ≠ .narrow) (hday : f.day = some day)
    (hyear : f.year = some .numeric) :
    f.Assembles (fun m => style.apply (Calendar.monthNames.get m)) day ' ' ',' [' '] where
  injective := NameStyle.month_injective hstyle
  not_mem_month := style.not_mem_month
  isDigit_dayEnd := by decide
  toList_body d := by
    rw [body, hmonth, hday, hyear]
    simp

theorem TellsApart.assembles (h : f.TellsApart) :
    ∃ month day monthEnd dayEnd gap, f.Assembles month day monthEnd dayEnd gap := by
  obtain ⟨hyear, ⟨day, hday⟩, style, hmonth, hstyle⟩ := h
  cases style with
  | number style => exact ⟨_, _, _, _, _, assembles_number hmonth hday hyear⟩
  | name style =>
    have hnarrow : style ≠ .narrow := fun h => hstyle (by rw [h])
    exact ⟨_, _, _, _, _, assembles_name hmonth hnarrow hday hyear⟩

theorem TellsApart.body_injective (h : f.TellsApart) : Function.Injective f.body := by
  obtain ⟨month, day, monthEnd, dayEnd, gap, hf⟩ := h.assembles
  intro d e heq
  have hlist := congrArg String.toList heq
  rw [hf.toList_body, hf.toList_body] at hlist
  obtain ⟨hmonth, hrest⟩ := cut_unique (hf.not_mem_month _) (hf.not_mem_month _) hlist
  obtain ⟨hday, hyear⟩ := cut_unique (NumberStyle.not_mem_apply hf.isDigit_dayEnd _ _)
    (NumberStyle.not_mem_apply hf.isDigit_dayEnd _ _) hrest
  have hmonths := hf.injective (String.toList_injective hmonth)
  have hdays := day.apply_injective (String.toList_injective hday)
  have hyears := String.toList_injective (List.append_cancel_left hyear)
  exact Date.eq_of_parts (NumberStyle.applyYear_injective hyears) hmonths hdays

theorem TellsApart.body_ne_empty (h : f.TellsApart) (d : Date) : f.body d ≠ "" := by
  obtain ⟨month, day, monthEnd, dayEnd, gap, hf⟩ := h.assembles
  intro hempty
  have hlist := hf.toList_body d
  rw [hempty] at hlist
  exact absurd hlist.symm (by simp)

/-- The day of the week, if it is shown, stands in front of the first comma. -/
theorem TellsApart.apply_injective (h : f.TellsApart) : Function.Injective f.apply := by
  have hne : f ≠ {} := fun hf => by
    have hyear := h.year
    rw [hf] at hyear
    cases hyear
  intro d e heq
  simp only [apply, if_neg hne, if_neg (h.body_ne_empty _)] at heq
  cases hweekday : f.weekday with
  | none =>
    rw [hweekday] at heq
    exact h.body_injective heq
  | some style =>
    have hlist := congrArg String.toList heq
    simp only [hweekday, String.toList_append, List.append_assoc] at hlist
    have hbody := (cut_unique (style.not_mem_weekday _) (style.not_mem_weekday _) hlist).2
    exact h.body_injective (String.toList_injective (List.cons.inj hbody).2)

/--
A format that shows the whole year, the day, and the month by more than its first letter, or that is
empty and stands for the standard one, gives two texts that write dates the same text exactly if
they write the same date. Every format leaves a text as it is that writes no date.
-/
theorem dates_told_apart (f : DateFormat) :
    (f.TellsApart ∨ f = {} → ∀ s t d e, Date.Writes s d → Date.Writes t e →
      (f.applyText s = f.applyText t ↔ d = e)) ∧
    ∀ s, (∀ d, ¬ Date.Writes s d) → f.applyText s = s := by
  constructor
  · intro hf s t d e hs ht
    have hinjective : Function.Injective f.apply := by
      rcases hf with hf | rfl
      · exact hf.apply_injective
      · exact standard_tellsApart.apply_injective
    rw [applyText, Date.parse?_eq_some_iff.mpr hs, applyText, Date.parse?_eq_some_iff.mpr ht]
    exact hinjective.eq_iff
  · intro s hs
    have hnone : Date.parse? s = none :=
      Option.eq_none_iff_forall_ne_some.mpr fun d hd => hs d (Date.parse?_eq_some_iff.mp hd)
    rw [applyText, hnone]

/-- The day of the week by its first letter, and the rest of the date in short. -/
def brief : DateFormat where
  weekday := some .narrow
  year := some .numeric
  month := some (.name .short)
  day := some .twoDigit

/-- Years differ by their sign alone, and a day that a month does not have makes no date. -/
theorem dates_told_apart_brief :
    brief.TellsApart ∧ Date.Writes "-0005-03-01" ⟨-5, 2, 1, by decide⟩ ∧
    Date.Writes "+0005-03-01" ⟨5, 2, 1, by decide⟩ ∧
    brief.applyText "-0005-03-01" ≠ brief.applyText "+0005-03-01" ∧
    (∀ d, ¬ Date.Writes "2026-02-29" d) ∧ brief.applyText "2026-02-29" = "2026-02-29" := by
  have htells : brief.TellsApart := ⟨rfl, ⟨_, rfl⟩, _, rfl, by decide⟩
  have hbefore : Date.Writes "-0005-03-01" ⟨-5, 2, 1, by decide⟩ :=
    Date.parse?_eq_some_iff.mp (by decide)
  have hafter : Date.Writes "+0005-03-01" ⟨5, 2, 1, by decide⟩ :=
    Date.parse?_eq_some_iff.mp (by decide)
  have hnone : ∀ d, ¬ Date.Writes "2026-02-29" d := fun d hd => by
    rw [← Date.parse?_eq_some_iff, show Date.parse? "2026-02-29" = none by decide] at hd
    cases hd
  obtain ⟨hapart, hkept⟩ := dates_told_apart brief
  have hdiffer := (hapart (.inl htells) _ _ _ _ hbefore hafter).not.mpr (by decide)
  exact ⟨htells, hbefore, hafter, hdiffer, hnone, hkept _ hnone⟩

end DateFormat

end Livery
