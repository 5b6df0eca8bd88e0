import Mathlib.Data.List.TakeWhile
import Livery.Proofs.Globs

/-!
# Patterns as regular expressions

A pattern is matched by way of a regular expression. `Glob.translated` is its text : the stretches
between the stars are escaped, stars become repetitions, and anchors stand at both ends.
`Expression` has the expressions of this kind, with the way they are written and with what they
match (`Expression.IsMatch`), and they can be told apart by how they are written
(`Expression.written_injective`).

The expression with the text of a pattern is `Glob.expression` (`Glob.written_eq_translated_iff`),
and it matches just the texts that fall into pieces for the tokens of the pattern
(`Glob.isMatch_expression_iff`).
-/

namespace Livery

namespace Expression

/-- The characters that mean something in an expression unless they are escaped. -/
def metaCharacters : List Char :=
  ['\\', '.', '+', '*', '?', '(', ')', '|', '[', ']', '\x7b', '\x7d', '^', '$', '#', '&', '-', '~']

/-- A stretch of text as an expression that stands for it. -/
def escape (cs : List Char) : List Char :=
  cs.flatMap fun c => if c ∈ metaCharacters then ['\\', c] else [c]

/-- A class of characters. -/
inductive Class
  /-- Any character but a line break. -/
  | dot
  /-- Any character but this one. -/
  | except (c : Char)

/-- Whether a class has a character. -/
def Class.Has : Class → Char → Prop
  | .dot, d => d ≠ '\n'
  | .except c, d => d ≠ c

/-- How a class is written. -/
def Class.written : Class → List Char
  | .dot => ['.']
  | .except c => ['[', '^', c, ']']

/-- A part of an expression. -/
inductive Part
  /-- The place at the start of the text. -/
  | start
  /-- The place at the end of the text. -/
  | stop
  | literal (c : Char)
  /-- Any number of characters of a class. -/
  | many (k : Class)

namespace Part

/-- How a part is written. -/
def written : Part → List Char
  | .start => ['^']
  | .stop => ['$']
  | .literal c => escape [c]
  | .many k => k.written ++ ['*']

/-- A part matches a stretch of a text, between what stands in front of it and behind it. -/
def Spans : Part → List Char → List Char → List Char → Prop
  | .start, before, w, _ => w = [] ∧ before = []
  | .stop, _, w, after => w = [] ∧ after = []
  | .literal c, _, w, _ => w = [c]
  | .many k, _, w, _ => ∀ c ∈ w, k.Has c

end Part

end Expression

/-- A regular expression : its parts match one behind the other. -/
abbrev Expression := List Expression.Part

namespace Expression

/-- How an expression is written. -/
def written (e : Expression) : List Char := e.flatMap Part.written

/-- An expression matches a stretch of a text if its parts match consecutive stretches of it. -/
inductive Spans : Expression → List Char → List Char → List Char → Prop
  | nil {before after : List Char} : Spans [] before [] after
  | cons {p : Part} {e : Expression} {before w rest after : List Char}
      (h : p.Spans before w (rest ++ after)) (hrest : Spans e (before ++ w) rest after) :
      Spans (p :: e) before (w ++ rest) after

/-- An expression matches in a text if it matches a stretch of the text. -/
def IsMatch (e : Expression) (s : String) : Prop :=
  ∃ before w after, s.toList = before ++ w ++ after ∧ e.Spans before w after

theorem spans_nil_iff {before w after : List Char} :
    Spans [] before w after ↔ w = [] := by
  constructor
  · rintro ⟨⟩
    rfl
  · rintro rfl
    exact .nil

theorem spans_cons_iff {p : Part} {e : Expression} {before w after : List Char} :
    Spans (p :: e) before w after ↔ ∃ u rest, w = u ++ rest ∧
      p.Spans before u (rest ++ after) ∧ Spans e (before ++ u) rest after := by
  constructor
  · rintro (_ | ⟨h, hrest⟩)
    exact ⟨_, _, rfl, h, hrest⟩
  · rintro ⟨u, rest, rfl, h, hrest⟩
    exact .cons h hrest

/-! ## Reading expressions -/

/-- The part that the text of an expression starts with, and what stands behind it. -/
def first? : List Char → Option (Part × List Char)
  | [] => none
  | c :: rest =>
    if c ∈ metaCharacters then
      match c, rest with
      | '^', rest => some (.start, rest)
      | '$', rest => some (.stop, rest)
      | '\\', c :: rest => some (.literal c, rest)
      | '.', '*' :: rest => some (.many .dot, rest)
      | '[', '^' :: c :: ']' :: '*' :: rest => some (.many (.except c), rest)
      | _, _ => none
    else some (.literal c, rest)

theorem first?_written (p : Part) (rest : List Char) :
    first? (p.written ++ rest) = some (p, rest) := by
  cases p with
  | start => rfl
  | stop => rfl
  | literal c =>
    by_cases hc : c ∈ metaCharacters
    · simp only [Part.written, escape, List.flatMap_singleton, if_pos hc]
      rfl
    · simp only [Part.written, escape, List.flatMap_singleton, if_neg hc, List.singleton_append,
        first?]
  | many k => cases k <;> rfl

/-- Expressions that are written alike are the same. -/
theorem written_injective : Function.Injective written := by
  intro e f h
  induction e generalizing f with
  | nil =>
    cases f with
    | nil => rfl
    | cons q f =>
      have hq := first?_written q (written f)
      rw [written, ← List.flatMap_cons, ← written, ← h] at hq
      cases hq
  | cons p e ih =>
    have hp := first?_written p (written e)
    rw [written, ← List.flatMap_cons, ← written, h] at hp
    cases f with
    | nil => cases hp
    | cons q f =>
      rw [written, List.flatMap_cons, ← written, first?_written] at hp
      obtain ⟨rfl, hrest⟩ := Prod.mk.inj (Option.some.inj hp)
      rw [ih hrest.symm]

end Expression

namespace GlobToken

/-- The part of an expression that a token is translated to. -/
def part : GlobToken → Expression.Part
  | .literal c => .literal c
  | .segment => .many (.except '/')
  | .line => .many .dot

theorem spans_part_iff {t : GlobToken} {before w after : List Char} :
    t.part.Spans before w after ↔ t.Matches w := by
  cases t with
  | literal c => exact Iff.rfl
  | segment => exact ⟨fun h hc => h _ hc rfl, fun h c hc heq => h (heq ▸ hc)⟩
  | line => exact ⟨fun h hc => h _ hc rfl, fun h c hc heq => h (heq ▸ hc)⟩

end GlobToken

namespace Glob

open Expression (escape)

/-- The expression of a pattern, with anchors at both ends. -/
def expression (g : Glob) : Expression := .start :: (g.map GlobToken.part ++ [.stop])

/-- Between the anchors, an expression goes on to the end of the text. -/
theorem spans_parts_iff {g : Glob} {before w after : List Char} :
    Expression.Spans (g.map GlobToken.part ++ [.stop]) before w after ↔
      after = [] ∧ Matches g w := by
  induction g generalizing before w with
  | nil =>
    simp only [List.map_nil, List.nil_append, Expression.spans_cons_iff, Expression.spans_nil_iff,
      matches_nil_iff, Expression.Part.Spans]
    constructor
    · rintro ⟨u, rest, rfl, ⟨rfl, hafter⟩, rfl⟩
      exact ⟨hafter, rfl⟩
    · rintro ⟨rfl, rfl⟩
      exact ⟨[], [], rfl, ⟨rfl, rfl⟩, rfl⟩
  | cons t g ih =>
    simp only [List.map_cons, List.cons_append, Expression.spans_cons_iff, ih,
      GlobToken.spans_part_iff, matches_cons_iff]
    constructor
    · rintro ⟨u, rest, rfl, hu, hafter, hrest⟩
      exact ⟨hafter, u, rest, hu, hrest, rfl⟩
    · rintro ⟨hafter, u, rest, hu, hrest, rfl⟩
      exact ⟨u, rest, rfl, hu, hafter, hrest⟩

/-- An expression matches in a text if the text falls into pieces for the tokens of the pattern. -/
theorem isMatch_expression_iff {g : Glob} {s : String} :
    g.expression.IsMatch s ↔ Matches g s.toList := by
  constructor
  · rintro ⟨before, w, after, hs, h⟩
    obtain ⟨u, rest, rfl, ⟨rfl, rfl⟩, hrest⟩ := Expression.spans_cons_iff.mp h
    obtain ⟨rfl, hmatches⟩ := spans_parts_iff.mp hrest
    simpa [hs] using hmatches
  · intro h
    refine ⟨[], s.toList, [], by simp, Expression.spans_cons_iff.mpr ?_⟩
    exact ⟨[], s.toList, rfl, ⟨rfl, rfl⟩, spans_parts_iff.mpr ⟨rfl, h⟩⟩

/-! ## Translating patterns -/

/-- The text of an expression between its anchors : the stretch of the pattern in front of the first
star is escaped, the star or the pair of stars becomes a repetition, and so on behind it. -/
def repetitions (cs : List Char) : List Char :=
  match _ : cs.dropWhile (· ≠ '*') with
  | '*' :: '*' :: rest => escape (cs.takeWhile (· ≠ '*')) ++ ['.', '*'] ++ repetitions rest
  | _ :: rest => escape (cs.takeWhile (· ≠ '*')) ++ ['[', '^', '/', ']', '*'] ++ repetitions rest
  | [] => escape cs
termination_by cs.length
decreasing_by
  all_goals
    have hlength := (@List.dropWhile_suffix _ cs (· ≠ '*')).length_le
    simp only [*, List.length_cons] at hlength
    omega

/-- The text of the expression that a pattern is translated to. -/
def translated (cs : List Char) : List Char := '^' :: (repetitions cs ++ ['$'])

/-- A stretch without stars is a literal for each of its characters. -/
theorem ofChars_append {stretch rest : List Char} (h : '*' ∉ stretch) :
    ofChars (stretch ++ rest) = stretch.map GlobToken.literal ++ ofChars rest := by
  induction stretch with
  | nil => rfl
  | cons c stretch ih =>
    obtain ⟨hc, hstretch⟩ := not_or.mp (mt List.mem_cons.mpr h)
    have hc' : c = '*' → False := fun h => hc h.symm
    rw [List.cons_append, ofChars.eq_3 _ _ (fun _ h _ => hc' h) hc', ih hstretch]
    rfl

/-- The first star ends a stretch of literals. -/
theorem ofChars_eq (cs : List Char) :
    ofChars cs = (cs.takeWhile (· ≠ '*')).map GlobToken.literal ++
      ofChars (cs.dropWhile (· ≠ '*')) := by
  have hstretch : '*' ∉ cs.takeWhile (· ≠ '*') := fun h => by
    simpa using List.mem_takeWhile_imp h
  rw [← ofChars_append hstretch, List.takeWhile_append_dropWhile]

/-- What follows a stretch without stars starts with one. -/
theorem eq_star {cs rest : List Char} {c : Char} (h : cs.dropWhile (· ≠ '*') = c :: rest) :
    c = '*' := by
  have hfind : cs.find? (fun d => !decide (d ≠ '*')) = some c := by
    rw [List.find?_not_eq_head?_dropWhile, h, List.head?_cons]
  simpa using List.find?_some hfind

/-- The parts of an expression are written as the pattern is translated. -/
theorem written_parts (cs : List Char) :
    Expression.written ((ofChars cs).map GlobToken.part) = repetitions cs := by
  have hliterals : ∀ (stretch : List Char) (g : Glob),
      Expression.written ((stretch.map GlobToken.literal ++ g).map GlobToken.part) =
        escape stretch ++ Expression.written (g.map GlobToken.part) := by
    intro stretch g
    simp [Expression.written, List.flatMap_map, escape, GlobToken.part, Expression.Part.written]
  fun_induction repetitions cs with
  | case1 cs rest h ih =>
    rw [ofChars_eq, h, ofChars, hliterals, ← ih]
    simp [Expression.written, GlobToken.part, Expression.Part.written, Expression.Class.written]
  | case2 cs c rest hc h ih =>
    obtain rfl := eq_star h
    rw [ofChars_eq, h, ofChars.eq_2 _ (fun more => hc more rfl), hliterals, ← ih]
    simp [Expression.written, GlobToken.part, Expression.Part.written, Expression.Class.written]
  | case3 cs h =>
    have hcs : cs.takeWhile (· ≠ '*') = cs :=
      List.takeWhile_eq_self_iff.mpr (List.dropWhile_eq_nil_iff.mp h)
    rw [ofChars_eq, h, hcs, ofChars, hliterals]
    exact List.append_nil _

/-- The expression of a pattern is the one that is written as the pattern is translated. -/
theorem written_eq_translated_iff {cs : List Char} {e : Expression} :
    e.written = translated cs ↔ e = (ofChars cs).expression := by
  have hwritten : (ofChars cs).expression.written = translated cs := by
    rw [translated, ← written_parts]
    simp [expression, Expression.written, Expression.Part.written]
  rw [← hwritten]
  exact Expression.written_injective.eq_iff

end Glob

end Livery
