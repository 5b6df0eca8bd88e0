import Mathlib.Data.List.Forall2
import Mathlib.Data.List.Chain
import Mathlib.Data.List.Infix
import Livery.Manifest.Basic

/-!
# What globs match

A text matches a pattern if it falls into consecutive pieces, one for each token (`Glob.Matches`).
`Glob.accepts` decides this without looking for the pieces : it goes through the text from its end,
and the row that it keeps answers for every end of the pattern whether that matches what has been
gone through (`Answers`). A step of the row is a step of the text (`Answers.step`), so the answer
for the whole pattern is right (`accepts_iff`).

The tokens are found in the pattern without looking ahead by more than one character. `Spells` says
what they are of the pattern as a whole : written one behind the other they give the pattern, no
star is a literal, and no star is left alone in front of another one. There is one such list of
tokens for each text (`spells_iff`).
-/

namespace Livery

namespace GlobToken

/-- How a token is written. -/
def spelling : GlobToken → List Char
  | .literal c => [c]
  | .segment => ['*']
  | .line => ['*', '*']

/-- The texts that a token stands for. -/
def Matches : GlobToken → List Char → Prop
  | .literal c, w => w = [c]
  | .segment, w => '/' ∉ w
  | .line, w => '\n' ∉ w

theorem matches_nil_iff {t : GlobToken} : t.Matches [] ↔ t.isEmptiable = true := by
  cases t <;> simp [Matches, isEmptiable]

/-- The texts of a token for texts of any length are made of the characters that it spans. -/
theorem matches_cons_iff {t : GlobToken} (ht : t.isEmptiable = true) {c : Char} {w : List Char} :
    t.Matches (c :: w) ↔ t.spans c = true ∧ t.Matches w := by
  cases t with
  | literal d => cases ht
  | segment => simp [Matches, spans, ne_comm]
  | line => simp [Matches, spans, ne_comm]

end GlobToken

namespace Glob

/-! ## Pieces -/

/-- A text falls into consecutive pieces, one for each token of a pattern. -/
def Matches (g : Glob) (cs : List Char) : Prop :=
  ∃ pieces, List.Forall₂ GlobToken.Matches g pieces ∧ pieces.flatten = cs

theorem matches_nil_iff {cs : List Char} : Matches [] cs ↔ cs = [] := by
  simp [Matches, eq_comm]

theorem matches_cons_iff {t : GlobToken} {g : Glob} {cs : List Char} :
    Matches (t :: g) cs ↔ ∃ w rest, t.Matches w ∧ Matches g rest ∧ w ++ rest = cs := by
  constructor
  · rintro ⟨pieces, hpieces, rfl⟩
    obtain ⟨w, ws, hw, hws, rfl⟩ := List.forall₂_cons_left_iff.mp hpieces
    exact ⟨w, ws.flatten, hw, ⟨ws, hws, rfl⟩, rfl⟩
  · rintro ⟨w, rest, hw, ⟨ws, hws, rfl⟩, rfl⟩
    exact ⟨w :: ws, .cons hw hws, rfl⟩

/-- The empty text falls into empty pieces. -/
theorem matches_cons_nil_iff {t : GlobToken} {g : Glob} :
    Matches (t :: g) [] ↔ t.isEmptiable = true ∧ Matches g [] := by
  rw [matches_cons_iff, ← GlobToken.matches_nil_iff]
  constructor
  · rintro ⟨w, rest, hw, hrest, h⟩
    obtain ⟨rfl, rfl⟩ := List.append_eq_nil_iff.mp h
    exact ⟨hw, hrest⟩
  · rintro ⟨hw, hrest⟩
    exact ⟨[], [], hw, hrest, rfl⟩

theorem matches_literal_cons_iff {d c : Char} {g : Glob} {cs : List Char} :
    Matches (.literal d :: g) (c :: cs) ↔ d = c ∧ Matches g cs := by
  rw [matches_cons_iff]
  constructor
  · rintro ⟨_, rest, rfl, hrest, h⟩
    obtain ⟨rfl, rfl⟩ := List.cons.inj h
    exact ⟨rfl, hrest⟩
  · rintro ⟨rfl, hcs⟩
    exact ⟨[d], cs, rfl, hcs, rfl⟩

/-- A token for texts of any length ends in front of a character, or goes on behind it. -/
theorem matches_cons_cons_iff {t : GlobToken} (ht : t.isEmptiable = true) {g : Glob} {c : Char}
    {cs : List Char} :
    Matches (t :: g) (c :: cs) ↔ Matches g (c :: cs) ∨ t.spans c = true ∧ Matches (t :: g) cs := by
  rw [matches_cons_iff, matches_cons_iff]
  constructor
  · rintro ⟨w, rest, hw, hrest, h⟩
    cases w with
    | nil => exact Or.inl (h ▸ hrest)
    | cons d w =>
      obtain ⟨rfl, rfl⟩ := List.cons.inj h
      obtain ⟨hd, hw⟩ := (GlobToken.matches_cons_iff ht).mp hw
      exact Or.inr ⟨hd, w, rest, hw, hrest, rfl⟩
  · rintro (h | ⟨hc, w, rest, hw, hrest, rfl⟩)
    · exact ⟨[], c :: cs, GlobToken.matches_nil_iff.mpr ht, h, rfl⟩
    · exact ⟨c :: w, rest, (GlobToken.matches_cons_iff ht).mpr ⟨hc, hw⟩, hrest, rfl⟩

/-! ## Rows -/

/-- A row says of every end of a pattern, the longest first, whether it matches a text. -/
def Answers (cs : List Char) (g : Glob) (row : List Bool) : Prop :=
  List.Forall₂ (fun rest answer => answer = true ↔ Matches rest cs) g.tails row

namespace Answers

variable {cs : List Char} {g : Glob} {row : List Bool}

theorem head (h : Answers cs g row) : row.headD false = true ↔ Matches g cs := by
  cases g with
  | nil =>
    obtain ⟨answer, _, hanswer, -, rfl⟩ := List.forall₂_cons_left_iff.mp h
    exact hanswer
  | cons t g =>
    rw [Answers, List.tails] at h
    obtain ⟨answer, _, hanswer, -, rfl⟩ := List.forall₂_cons_left_iff.mp h
    exact hanswer

theorem tail {t : GlobToken} (h : Answers cs (t :: g) row) : Answers cs g row.tail := by
  rw [Answers, List.tails] at h
  obtain ⟨_, rest, -, hrest, rfl⟩ := List.forall₂_cons_left_iff.mp h
  exact hrest

theorem nil {answer : Bool} (hanswer : answer = true ↔ cs = []) : Answers cs [] [answer] :=
  .cons (hanswer.trans matches_nil_iff.symm) .nil

theorem cons {t : GlobToken} {answer : Bool} (hanswer : answer = true ↔ Matches (t :: g) cs)
    (h : Answers cs g row) : Answers cs (t :: g) (answer :: row) := by
  rw [Answers, List.tails]
  exact .cons hanswer h

/-- The row for the empty text. -/
theorem empty : ∀ g : Glob, Answers [] g (emptyRow g)
  | [] => nil (by simp)
  | t :: g => by
    have hrow := empty g
    refine hrow.cons ?_
    rw [Bool.and_eq_true, matches_cons_nil_iff, hrow.head]

/-- The row for a text with one more character in front. -/
theorem step (c : Char) : ∀ {g : Glob} {next : List Bool}, Answers cs g next →
    Answers (c :: cs) g (stepRow c g next)
  | [], _, _ => nil (by simp)
  | t :: g, next, h => by
    have hrow := step c h.tail
    refine hrow.cons ?_
    -- A literal takes the character. Any other token leaves it to the rest or takes it and stays.
    cases t with
    | literal d =>
      rw [matches_literal_cons_iff, ← h.tail.head]
      simp
    | segment =>
      rw [matches_cons_cons_iff rfl, ← h.head, ← hrow.head]
      simp
    | line =>
      rw [matches_cons_cons_iff rfl, ← h.head, ← hrow.head]
      simp

end Answers

/-- The row at the front of a text. -/
theorem answers_foldr (g : Glob) : ∀ cs : List Char,
    Answers cs g (cs.foldr (fun c row => stepRow c g row) (emptyRow g))
  | [] => Answers.empty g
  | c :: cs => (answers_foldr g cs).step c

/-- A pattern accepts the texts that match it. -/
theorem accepts_iff {g : Glob} {s : String} : g.accepts s = true ↔ g.Matches s.toList :=
  (answers_foldr g s.toList).head

/-! ## Spelling -/

/-- The tokens that a text is read as : they are written one behind the other, a literal is no star,
and a single star has no star behind it. -/
structure Spells (g : Glob) (cs : List Char) : Prop where
  written : g.flatMap GlobToken.spelling = cs
  literals : ∀ c, .literal c ∈ g → c ≠ '*'
  pairs : g.IsChain fun t u => t = .segment → ∃ c, u = .literal c

theorem spells_nil_iff {cs : List Char} : Spells [] cs ↔ cs = [] := by
  constructor
  · rintro ⟨rfl, -, -⟩
    rfl
  · rintro rfl
    exact ⟨rfl, by simp, .nil⟩

/-- What stands behind the first token shows whether a single star has another one behind it. -/
theorem spells_cons_iff {t : GlobToken} {g : Glob} {cs : List Char} :
    Spells (t :: g) cs ↔ ∃ rest, t.spelling ++ rest = cs ∧ Spells g rest ∧ t ≠ .literal '*' ∧
      (t = .segment → rest.head? ≠ some '*') := by
  constructor
  · rintro ⟨rfl, hliterals, hpairs⟩
    have hrest : Spells g (g.flatMap GlobToken.spelling) :=
      ⟨rfl, fun c hc => hliterals c (List.mem_cons_of_mem _ hc), hpairs.tail⟩
    refine ⟨_, List.flatMap_cons.symm, hrest, ?_, fun ht => ?_⟩
    · rintro rfl
      exact hliterals '*' List.mem_cons_self rfl
    · cases g with
      | nil => simp
      | cons u g =>
        obtain ⟨c, rfl⟩ := (List.isChain_cons_cons.mp hpairs).1 ht
        simpa [GlobToken.spelling] using hrest.literals c List.mem_cons_self
  · rintro ⟨rest, rfl, ⟨rfl, hliterals, hpairs⟩, ht, hstar⟩
    refine ⟨List.flatMap_cons, fun c hc => ?_, ?_⟩
    · rcases List.mem_cons.mp hc with rfl | hc
      · exact fun h => ht (h ▸ rfl)
      · exact hliterals c hc
    · cases g with
      | nil => exact .singleton t
      | cons u g =>
        refine List.isChain_cons_cons.mpr ⟨fun h => ?_, hpairs⟩
        cases u with
        | literal c => exact ⟨c, rfl⟩
        | segment => exact absurd rfl (hstar h)
        | line => exact absurd rfl (hstar h)

/-- Reading a text finds its tokens, and there are no others. -/
theorem spells_iff {g : Glob} {cs : List Char} : Spells g cs ↔ g = ofChars cs := by
  -- For each way in which the text can start, only one token can stand there.
  induction cs using ofChars.induct generalizing g with
  | case1 rest ih =>
    cases g with
    | nil => simp [spells_nil_iff, ofChars]
    | cons t g =>
      cases t <;> simp +contextual [spells_cons_iff, GlobToken.spelling, ofChars, ih]
  | case2 rest h ih =>
    have hne : ∀ more, '*' :: more ≠ rest := fun more heq => h more heq.symm
    have hhead : rest.head? ≠ some '*' := by
      intro hstar
      obtain ⟨more, hmore⟩ := List.head?_eq_some_iff.mp hstar
      exact h more hmore
    cases g with
    | nil => simp [spells_nil_iff, ofChars]
    | cons t g =>
      cases t <;>
        simp +contextual [spells_cons_iff, GlobToken.spelling, ofChars, ih, hne, hhead]
  | case3 c rest h h' ih =>
    have hc : '*' ≠ c := fun heq => h' heq.symm
    cases g with
    | nil => simp [spells_nil_iff, ofChars]
    | cons t g =>
      cases t <;>
        simp +contextual [spells_cons_iff, GlobToken.spelling, ofChars, ih, hc, hc.symm]
  | case4 =>
    cases g with
    | nil => simp [spells_nil_iff, ofChars]
    | cons t g => cases t <;> simp [spells_cons_iff, GlobToken.spelling, ofChars]

end Glob

end Livery
