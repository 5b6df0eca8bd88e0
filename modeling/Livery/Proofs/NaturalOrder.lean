import Mathlib.Data.Char
import Mathlib.Data.List.SplitBy
import Livery.Text.Natural

/-!
# The natural order

Natural order compares the keys of two texts part by part. The parts of a key compare as their ranks
do (`Part.compareSignificant_eq`), because the lower case of a letter never starts with a digit
(`Text.exists_lowerChar`). So natural order is a total preorder, and two texts stand on the same
place in it if they have the same key.

Two other ways to see the order are the same. The key is made of the maximal runs of digits and of
the characters between them (`key_eq_tokens`), and comparing keys is going through both texts at
once, run by run and character by character (`compare_eq_scan`).
-/

namespace Livery

/-! ## Digits and lower case -/

namespace Text

theorem isDigit_iff {c : Char} : c.isDigit = true ↔ 48 ≤ c.toNat ∧ c.toNat ≤ 57 := by
  simp only [Char.isDigit, Bool.and_eq_true, decide_eq_true_eq, ge_iff_le, UInt32.le_iff_toNat_le]
  exact Iff.rfl

/-- A shift leaves a character alone or belongs to a run that starts in front of it. -/
theorem shifted_cases : ∀ (shifts : List Shift) (c : Nat),
    shifted shifts c = c ∨ ∃ s ∈ shifts, s.1 ≤ c ∧ shifted shifts c = (c + s.2.2.2).toNat
  | [], _ => Or.inl rfl
  | (first, last, step, offset) :: rest, c => by
    rw [shifted]
    split
    · rename_i hc
      exact Or.inr ⟨_, List.mem_cons_self, hc.1, rfl⟩
    · rcases shifted_cases rest c with h | ⟨s, hs, h⟩
      · exact Or.inl h
      · exact Or.inr ⟨s, List.mem_cons_of_mem _ hs, h⟩

/-- The shifts to lower case lie behind the digits, and lead behind them. -/
theorem lowerShifts_behind_digits : ∀ s ∈ lowerShifts, 57 < s.1 ∧ 57 < s.1 + s.2.2.2 := by
  decide +kernel

theorem lowerChar_of_isDigit {c : Char} (h : c.isDigit = true) : lowerChar c = [c] := by
  rw [isDigit_iff] at h
  have hspecial : lowerSpecials.lookup c.toNat = none := by
    rw [lowerSpecials, List.lookup_cons, beq_false_of_ne (by omega)]
    rfl
  have hshift : shifted lowerShifts c.toNat = c.toNat := by
    rcases shifted_cases lowerShifts c.toNat with h' | ⟨s, hs, hc, -⟩
    · exact h'
    · have hbehind := (lowerShifts_behind_digits s hs).1
      omega
  rw [lowerChar, converted, hspecial, hshift, Char.ofNat_toNat]

theorem isDigit_ofNat {n : Nat} (h : n < 48 ∨ 57 < n) : (Char.ofNat n).isDigit = false := by
  rw [← Bool.not_eq_true, isDigit_iff, Char.ofNat]
  by_cases hn : n.isValidChar
  · have hcode : (Char.ofNatAux n hn).toNat = n := rfl
    rw [dif_pos hn, hcode]
    omega
  · rw [dif_neg hn]
    decide

/-- The lower case of a character that is no digit does not start with a digit. -/
theorem exists_lowerChar {c : Char} (h : c.isDigit = false) :
    ∃ d ds, lowerChar c = d :: ds ∧ d.isDigit = false := by
  rw [lowerChar, converted]
  cases hspecial : lowerSpecials.lookup c.toNat with
  | some codes =>
    obtain ⟨l, r, hlr, -⟩ := List.lookup_eq_some_iff.mp hspecial
    have hmem : (c.toNat, codes) ∈ lowerSpecials := by
      rw [hlr]
      simp
    obtain ⟨-, rfl⟩ := Prod.mk.inj (List.mem_singleton.mp hmem)
    exact ⟨_, _, rfl, isDigit_ofNat (by omega)⟩
  | none =>
    refine ⟨_, [], rfl, ?_⟩
    rcases shifted_cases lowerShifts c.toNat with hself | ⟨s, hs, hc, hshift⟩
    · rwa [hself, Char.ofNat_toNat]
    · have hbehind := (lowerShifts_behind_digits s hs).2
      rw [hshift]
      exact isDigit_ofNat (by omega)

/-- All digits stand on the same side of a character that is none. -/
theorem compare_digit {x y d : Char} (hx : x.isDigit = true) (hy : y.isDigit = true)
    (hd : d.isDigit = false) : compare x d ≠ .eq ∧ compare x d = compare y d := by
  rw [← Bool.not_eq_true, isDigit_iff] at hd
  rw [isDigit_iff] at hx hy
  rcases Nat.lt_or_ge d.toNat x.toNat with h | h
  · have hxd : compare x d = .gt := compare_gt_iff_gt.mpr h
    have hyd : compare y d = .gt := compare_gt_iff_gt.mpr (show d.toNat < y.toNat by omega)
    rw [hxd, hyd]
    decide
  · have hxd : compare x d = .lt := compare_lt_iff_lt.mpr (show x.toNat < d.toNat by omega)
    have hyd : compare y d = .lt := compare_lt_iff_lt.mpr (show y.toNat < d.toNat by omega)
    rw [hxd, hyd]
    decide

end Text

/-! ## Parts -/

namespace Natural

/-- What decides first decides. -/
theorem then_eq_left : ∀ {o o' : Ordering}, o ≠ .eq → o.then o' = o
  | .lt, _, _ => rfl
  | .eq, _, h => absurd rfl h
  | .gt, _, _ => rfl

namespace Part

/-- Where a part stands : all numbers stand where the digit `0` stands. -/
def place : Part → List Char
  | .number _ => ['0']
  | .letter lower => lower

/-- Whether a part is a letter. -/
def isLetter : Part → Bool
  | .number _ => false
  | .letter _ => true

/-- The digits of a number. -/
def digits : Part → List Char
  | .number digits => digits
  | .letter _ => []

/-- Compares parts by their places, and numbers by their lengths and then by their digits. -/
def compareRank : Part → Part → Ordering :=
  compareLex (compareOn place) <| compareLex (compareOn isLetter) <|
    compareLex (compareOn fun p => p.digits.length) (compareOn digits)

instance : Std.TransCmp compareRank :=
  inferInstanceAs <| Std.TransCmp <| compareLex (compareOn place) <|
    compareLex (compareOn isLetter) <|
      compareLex (compareOn fun p => p.digits.length) (compareOn digits)

instance : Std.LawfulEqCmp compareRank where
  eq_of_compare {p q} h := by
    simp only [compareRank, compareLex, compareOn, Ordering.then_eq_eq,
      Std.LawfulEqOrd.compare_eq_iff_eq] at h
    obtain ⟨hplace, hletter, -, hdigits⟩ := h
    cases p <;> cases q <;> simp_all [place, isLetter, digits]

/-- A letter does not stand where the numbers do. -/
def Proper (p : Part) : Prop := p ≠ .letter ['0']

theorem compareSignificant_eq {p q : Part} (hp : p.Proper) (hq : q.Proper) :
    compareSignificant p q = compareRank p q := by
  have hplace : ∀ {lower : List Char}, (Part.letter lower).Proper → lower ≠ ['0'] := by
    rintro lower h rfl
    exact h rfl
  -- Where a number meets a letter their places decide.
  have hdecides : ∀ {a b : List Char} {o : Ordering}, a ≠ b →
      Ord.compare a b = (Ord.compare a b).then o := fun hne =>
    (then_eq_left (mt Std.LawfulEqOrd.compare_eq_iff_eq.mp hne)).symm
  cases p with
  | number a =>
    cases q with
    | number b =>
      simp [compareSignificant, compareRank, compareLex, compareOn, place, isLetter, digits]
    | letter b => exact hdecides (hplace hq).symm
  | letter a =>
    cases q with
    | number b => exact hdecides (hplace hp)
    | letter b =>
      simp [compareSignificant, compareRank, compareLex, compareOn, place, isLetter, digits]

end Part

/-! ## Keys -/

theorem parts_letter {c : Char} (hc : c.isDigit = false) (cs : List Char) :
    parts (c :: cs) = .letter (Text.lowerChar c) :: parts cs := by
  rw [parts, hc, if_neg Bool.false_ne_true]

/-- The digits in front of a text form its first part. -/
theorem parts_number {c : Char} (hc : c.isDigit = true) : ∀ cs : List Char,
    parts (c :: cs) =
      .number (c :: cs.takeWhile Char.isDigit) :: parts (cs.dropWhile Char.isDigit)
  | [] => by simp [parts, hc]
  | d :: cs => by
    rw [parts, if_pos hc]
    cases hd : d.isDigit with
    | true => rw [parts_number hd, List.takeWhile_cons_of_pos hd, List.dropWhile_cons_of_pos hd]
    | false =>
      have hstop : ¬d.isDigit = true := by rw [hd]; exact Bool.false_ne_true
      rw [parts_letter hd, List.takeWhile_cons_of_neg hstop, List.dropWhile_cons_of_neg hstop,
        parts_letter hd]

/-- Induction on a text along its parts. -/
theorem partsInduct {motive : List Char → Prop} (nil : motive [])
    (letter : ∀ c cs, c.isDigit = false → motive cs → motive (c :: cs))
    (number : ∀ c cs, c.isDigit = true → motive (cs.dropWhile Char.isDigit) → motive (c :: cs)) :
    ∀ cs, motive cs
  | [] => nil
  | c :: cs => by
    cases hc : c.isDigit with
    | false => exact letter c cs hc (partsInduct nil letter number cs)
    | true => exact number c cs hc (partsInduct nil letter number (cs.dropWhile Char.isDigit))
termination_by cs => cs.length
decreasing_by
  · simp
  · exact Nat.lt_succ_of_le (List.dropWhile_sublist _).length_le

/-- The key of characters : their parts as they are compared. -/
def keyOf (cs : List Char) : List Part := (parts cs).map Part.significant

theorem keyOf_letter {c : Char} (hc : c.isDigit = false) (cs : List Char) :
    keyOf (c :: cs) = .letter (Text.lowerChar c) :: keyOf cs := by
  rw [keyOf, parts_letter hc, List.map_cons, keyOf, Part.significant]
  exact fun digits h => Part.noConfusion h

theorem keyOf_number {c : Char} (hc : c.isDigit = true) (cs : List Char) :
    keyOf (c :: cs) = .number ((c :: cs.takeWhile Char.isDigit).dropWhile (· = '0')) ::
      keyOf (cs.dropWhile Char.isDigit) := by
  rw [keyOf, parts_number hc, List.map_cons, keyOf, Part.significant]

theorem proper_of_mem_keyOf : ∀ cs : List Char, ∀ p ∈ keyOf cs, p.Proper := by
  refine partsInduct (by simp [keyOf, parts]) ?_ ?_
  · intro c cs hc ih p hp
    rw [keyOf_letter hc] at hp
    rcases List.mem_cons.mp hp with rfl | hp
    · obtain ⟨d, ds, hlower, hd⟩ := Text.exists_lowerChar hc
      rintro h
      rw [hlower, Part.letter.injEq] at h
      cases h
      cases hd
    · exact ih p hp
  · intro c cs hc ih p hp
    rw [keyOf_number hc] at hp
    rcases List.mem_cons.mp hp with rfl | hp
    · exact fun h => Part.noConfusion h
    · exact ih p hp

/-! ## The order -/

theorem compareLex_congr {α : Type} {cmp cmp' : α → α → Ordering} : ∀ {l m : List α},
    (∀ a ∈ l, ∀ b ∈ m, cmp a b = cmp' a b) → List.compareLex cmp l m = List.compareLex cmp' l m
  | [], [], _ => rfl
  | [], _ :: _, _ => rfl
  | _ :: _, [], _ => rfl
  | a :: l, b :: m, h => by
    rw [List.compareLex_cons_cons, List.compareLex_cons_cons,
      h a List.mem_cons_self b List.mem_cons_self,
      compareLex_congr fun c hc d hd =>
        h c (List.mem_cons_of_mem _ hc) d (List.mem_cons_of_mem _ hd)]

/-- Texts compare as the ranks of their parts do. -/
theorem compare_eq_compareRank (s t : String) :
    compare s t = List.compareLex Part.compareRank (key s) (key t) :=
  compareLex_congr fun p hp q hq =>
    Part.compareSignificant_eq (proper_of_mem_keyOf _ p hp) (proper_of_mem_keyOf _ q hq)

theorem compare_swap (s t : String) : compare t s = (compare s t).swap := by
  rw [compare_eq_compareRank, compare_eq_compareRank]
  exact Std.OrientedCmp.eq_swap

theorem compare_trans {s t u : String} (h : compare s t ≠ .gt) (h' : compare t u ≠ .gt) :
    compare s u ≠ .gt := by
  rw [compare_eq_compareRank] at h h' ⊢
  exact Ordering.isLE_iff_ne_gt.mp
    (Std.TransCmp.isLE_trans (Ordering.isLE_iff_ne_gt.mpr h) (Ordering.isLE_iff_ne_gt.mpr h'))

/-- Two texts stand on the same place if they have the same key. -/
theorem compare_eq_eq_iff {s t : String} : compare s t = .eq ↔ key s = key t := by
  rw [compare_eq_compareRank, Std.LawfulEqCmp.compare_eq_iff_eq]

/-! ## Tokens -/

/-- The token of a run of digits, or of a single character. -/
def token : List Char → Part
  | [] => .letter []
  | c :: cs =>
    if c.isDigit then .number ((c :: cs).dropWhile (· = '0')) else .letter (Text.lowerChar c)

/-- The tokens of a text : its maximal runs of digits without the zeros in front, and all other
characters one by one in lower case. -/
def tokens (s : String) : List Part :=
  (s.toList.splitBy fun c d => c.isDigit && d.isDigit).map token

theorem splitBy_letter {c : Char} (hc : c.isDigit = false) (cs : List Char) :
    (c :: cs).splitBy (fun c d => c.isDigit && d.isDigit) =
      [c] :: cs.splitBy fun c d => c.isDigit && d.isDigit := by
  have happend := List.splitBy_append (r := fun c d => c.isDigit && d.isDigit) (l := [c]) (m := cs)
    (by simp [hc])
  exact happend

theorem splitBy_number {c : Char} (hc : c.isDigit = true) (cs : List Char) :
    (c :: cs).splitBy (fun c d => c.isDigit && d.isDigit) =
      (c :: cs.takeWhile Char.isDigit) ::
        (cs.dropWhile Char.isDigit).splitBy fun c d => c.isDigit && d.isDigit := by
  have hdigits : ∀ d ∈ c :: cs.takeWhile Char.isDigit, d.isDigit = true := by
    intro d hd
    rcases List.mem_cons.mp hd with rfl | hd
    · exact hc
    · exact List.all_eq_true.mp List.all_takeWhile d hd
  have hrun : (c :: cs.takeWhile Char.isDigit).splitBy (fun c d => c.isDigit && d.isDigit) =
      [c :: cs.takeWhile Char.isDigit] := by
    refine List.splitBy_of_isChain (List.cons_ne_nil _ _) (List.Pairwise.isChain ?_)
    exact List.pairwise_of_forall_mem_list fun d hd e he => by simp [hdigits d hd, hdigits e he]
  have hstop : ∀ d ∈ (c :: cs.takeWhile Char.isDigit).getLast?,
      ∀ e ∈ (cs.dropWhile Char.isDigit).head?, (d.isDigit && e.isDigit) = false := by
    intro d _ e he
    have hnot := List.head?_dropWhile_not Char.isDigit cs
    rw [Option.mem_def.mp he] at hnot
    simp [hnot]
  have happend := List.splitBy_append hstop
  rw [hrun, List.cons_append, List.takeWhile_append_dropWhile, List.singleton_append] at happend
  exact happend

theorem key_eq_tokens (s : String) : key s = tokens s := by
  have hkey : ∀ cs : List Char,
      keyOf cs = (cs.splitBy fun c d => c.isDigit && d.isDigit).map token := by
    refine partsInduct rfl ?_ ?_
    · intro c cs hc ih
      rw [keyOf_letter hc, splitBy_letter hc, List.map_cons, ih, token, if_neg]
      simp [hc]
    · intro c cs hc ih
      rw [keyOf_number hc, splitBy_number hc, List.map_cons, ih, token, if_pos hc]
  exact hkey s.toList

/-! ## Going through both texts -/

/-- The digits in front of a text, without the zeros in front of them. -/
def leadingNumber (cs : List Char) : List Char := (cs.takeWhile Char.isDigit).dropWhile (· = '0')

/-- Compares two texts from the front : the numbers that both start with, or else their first
characters, and then what stands behind them. -/
def scan : List Char → List Char → Ordering
  | [], [] => .eq
  | [], _ :: _ => .lt
  | _ :: _, [] => .gt
  | x :: a, y :: b =>
    if x.isDigit && y.isDigit then
      let m := leadingNumber (x :: a)
      let n := leadingNumber (y :: b)
      ((Ord.compare m.length n.length).then (Ord.compare m n)).then
        (scan (a.dropWhile Char.isDigit) (b.dropWhile Char.isDigit))
    else (Ord.compare (Text.lowerChar x) (Text.lowerChar y)).then (scan a b)
termination_by a => a.length
decreasing_by
  · exact Nat.lt_succ_of_le (List.dropWhile_sublist _).length_le
  · simp

/-- A digit stands on one side of the lower case of any other character, on the same as `0`. -/
theorem compare_lowerChar_digit {x y : Char} (hx : x.isDigit = true) (hy : y.isDigit = false) :
    Ord.compare ['0'] (Text.lowerChar y) ≠ .eq ∧
      Ord.compare (Text.lowerChar x) (Text.lowerChar y) =
        Ord.compare ['0'] (Text.lowerChar y) := by
  obtain ⟨d, ds, hlower, hd⟩ := Text.exists_lowerChar hy
  obtain ⟨hne, hside⟩ := Text.compare_digit (x := '0') rfl hx hd
  have hfirst : ∀ c : Char, Ord.compare c d ≠ .eq →
      Ord.compare [c] (d :: ds) = Ord.compare c d := by
    intro c hc
    rw [List.compare_cons_cons, then_eq_left hc]
  rw [Text.lowerChar_of_isDigit hx, hlower, hfirst '0' hne, hfirst x (hside ▸ hne)]
  exact ⟨hne, hside.symm⟩

/-- A number and another character are told apart as their lower cases are, whatever follows. -/
theorem compareLex_number_letter {x y : Char} (hx : x.isDigit = true) (hy : y.isDigit = false)
    (a b : List Char) (rest : Ordering) :
    List.compareLex Part.compareSignificant (keyOf (x :: a)) (keyOf (y :: b)) =
      (Ord.compare (Text.lowerChar x) (Text.lowerChar y)).then rest := by
  obtain ⟨hne, hside⟩ := compare_lowerChar_digit hx hy
  rw [keyOf_number hx, keyOf_letter hy, List.compareLex_cons_cons, hside]
  exact (then_eq_left hne).trans (then_eq_left hne).symm

theorem compareLex_letter_number {x y : Char} (hx : x.isDigit = false) (hy : y.isDigit = true)
    (a b : List Char) (rest : Ordering) :
    List.compareLex Part.compareSignificant (keyOf (x :: a)) (keyOf (y :: b)) =
      (Ord.compare (Text.lowerChar x) (Text.lowerChar y)).then rest := by
  obtain ⟨hne, hside⟩ := compare_lowerChar_digit hy hx
  have hne' : Ord.compare (Text.lowerChar x) ['0'] ≠ .eq := mt Std.OrientedCmp.eq_symm hne
  rw [keyOf_letter hx, keyOf_number hy, List.compareLex_cons_cons,
    Std.OrientedOrd.eq_swap (a := Text.lowerChar x), hside, ← Std.OrientedOrd.eq_swap]
  exact (then_eq_left hne').trans (then_eq_left hne').symm

theorem compareLex_keyOf (a b : List Char) :
    List.compareLex Part.compareSignificant (keyOf a) (keyOf b) = scan a b := by
  fun_induction scan a b with
  | case1 => rfl
  | case2 y b =>
    cases hy : y.isDigit with
    | true => rw [keyOf_number hy]; rfl
    | false => rw [keyOf_letter hy]; rfl
  | case3 x a =>
    cases hx : x.isDigit with
    | true => rw [keyOf_number hx]; rfl
    | false => rw [keyOf_letter hx]; rfl
  | case4 x a y b hdigits m n ih =>
    obtain ⟨hx, hy⟩ := Bool.and_eq_true_iff.mp hdigits
    rw [keyOf_number hx, keyOf_number hy, List.compareLex_cons_cons, ih]
    have hm : m = (x :: a.takeWhile Char.isDigit).dropWhile (· = '0') := by
      simp only [m, leadingNumber, List.takeWhile_cons_of_pos hx]
    have hn : n = (y :: b.takeWhile Char.isDigit).dropWhile (· = '0') := by
      simp only [n, leadingNumber, List.takeWhile_cons_of_pos hy]
    rw [hm, hn]
    rfl
  | case5 x a y b hdigits ih =>
    cases hx : x.isDigit with
    | false =>
      cases hy : y.isDigit with
      | false =>
        rw [keyOf_letter hx, keyOf_letter hy, List.compareLex_cons_cons, ih]
        rfl
      | true => exact compareLex_letter_number hx hy a b _
    | true =>
      cases hy : y.isDigit with
      | false => exact compareLex_number_letter hx hy a b _
      | true => exact absurd (by rw [hx, hy]; rfl) hdigits

/-- Comparing two texts is going through both at once. -/
theorem compare_eq_scan (s t : String) : compare s t = scan s.toList t.toList :=
  compareLex_keyOf s.toList t.toList

example : compare "1.9" "1.10" = .lt ∧ compare "v10" "V2" = .gt ∧ compare "1.09" "1.9" = .eq := by
  decide +kernel

end Natural

end Livery
