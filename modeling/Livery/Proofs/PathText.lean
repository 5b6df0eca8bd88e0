import Livery.Json.Basic
import Livery.Text.Affix
import Livery.Text.Numeral
import Livery.Text.Split

/-!
# Paths read back

`Path.render` writes a path in dotted form, and `Path.ofText?` reads the dotted form : fields are
separated by dots, and indices stand in brackets behind a field. A path is read back from what is
written for it (`Path.ofText?_render`) if its fields have names without dots and brackets
(`Path.IsPlain`) and if the first step goes to a field with a name (`Path.Rooted`). So the places
that diagnostics name in their texts are the places of the findings.
-/

namespace Livery

namespace Text

theorem digitsValue_repr (n : Nat) : digitsValue (Nat.repr n).toList = n := by
  rw [Nat.repr_eq_ofList_toDigits, String.toList_ofList]
  exact Nat.ofDigitChars_toDigits (by decide) (by decide)

/-- A number is read from its digits. -/
theorem natural?_repr (n : Nat) : natural? (Nat.repr n).toList = some n := by
  rw [natural?, if_neg, digitsValue_repr]
  have hdigits : ∀ c ∈ Nat.toDigits 10 n, c.isDigit = true := fun c hc =>
    Nat.isDigit_of_mem_toDigits (by decide) (by decide) hc
  rw [Nat.repr_eq_ofList_toDigits, String.toList_ofList]
  simpa [Nat.toDigits_ne_nil] using hdigits

end Text

namespace Path

/-! ## Reading a path -/

/-- The step to an index, read from the digits and the bracket behind them. -/
def index? (piece : String) : Option Step :=
  (Text.before? "]" piece).bind fun digits => (Text.natural? digits.toList).map .index

/-- The step to a field and the steps to the indices behind it. -/
def segment? (s : String) : Option Path :=
  match Text.split '[' s with
  | [] => none
  | name :: pieces => (pieces.mapM index?).map fun steps => .field name :: steps

/-- The path that is written in dotted form; the empty text is the root. -/
def ofText? (s : String) : Option Path :=
  if s = "" then some [] else ((Text.split '.' s).mapM segment?).map List.flatten

/-! ## Reading what was written -/

/-- A name without the punctuation of paths. -/
def IsPlain (name : String) : Prop := ∀ c ∈ name.toList, c ≠ '.' ∧ c ≠ '[' ∧ c ≠ ']'

instance (name : String) : Decidable (IsPlain name) :=
  decidable_of_iff (name.toList.all fun c => c ≠ '.' ∧ c ≠ '[' ∧ c ≠ ']') <| by
    simp only [List.all_eq_true, decide_eq_true_eq, IsPlain]

/-- All fields on a path have plain names. -/
def Plain (p : Path) : Prop := ∀ name, Step.field name ∈ p → IsPlain name

/-- A path is the root or starts at a field that has a name. -/
def Rooted (p : Path) : Prop := ∀ s, p.head? = some s → ∃ name, s = .field name ∧ name ≠ ""

theorem index?_repr (i : Nat) : index? (Nat.repr i ++ "]") = some (.index i) := by
  rw [index?, Text.before?_eq_some_iff.mpr rfl, Option.bind_some, Text.natural?_repr,
    Option.map_some]

theorem segment?_name {name : String} (h : IsPlain name) : segment? name = some [.field name] := by
  rw [segment?, Text.split_of_not_mem fun hmem => (h _ hmem).2.1 rfl]
  rfl

theorem not_mem_toDigits {c : Char} (h : c.isDigit = false) (i : Nat) : c ∉ Nat.toDigits 10 i := by
  intro hmem
  rw [Nat.isDigit_of_mem_toDigits (by decide) (by decide) hmem] at h
  cases h

/-- An index behind a segment is read as one step more. -/
theorem segment?_index {s : String} {p : Path} (h : segment? s = some p) (i : Nat) :
    segment? (s ++ "[" ++ (Nat.repr i ++ "]")) = some (p ++ [.index i]) := by
  have hsplit : Text.split '[' (s ++ "[" ++ (Nat.repr i ++ "]")) =
      Text.split '[' s ++ [Nat.repr i ++ "]"] := by
    refine Text.split_snoc s ?_
    simp [not_mem_toDigits (c := '[') (by decide) i]
  rw [segment?] at h
  rw [segment?, hsplit]
  cases hs : Text.split '[' s with
  | nil =>
    rw [hs] at h
    cases h
  | cons name pieces =>
    rw [hs] at h
    obtain ⟨steps, hsteps, rfl⟩ := Option.map_eq_some_iff.mp h
    have hmapM : (pieces ++ [Nat.repr i ++ "]"]).mapM index? = some (steps ++ [.index i]) := by
      rw [List.mapM_append, hsteps]
      simp [index?_repr]
    rw [List.cons_append]
    dsimp only
    rw [hmapM]
    rfl

/-- The steps behind a segment are read behind those of the segment. -/
theorem segments_renderRest : ∀ {p : Path}, p.Plain → ∀ {s : String} {q : Path}, '.' ∉ s.toList →
    segment? s = some q →
      ((Text.split '.' (s ++ renderRest p)).mapM segment?).map List.flatten = some (q ++ p)
  | [], _, s, q, hs, hq => by
    rw [renderRest, String.append_empty, Text.split_of_not_mem hs]
    simp [hq]
  | .field name :: rest, hp, s, q, hs, hq => by
    have hname : IsPlain name := hp name List.mem_cons_self
    have hrest : Plain rest := fun n hn => hp n (List.mem_cons_of_mem _ hn)
    have ih := segments_renderRest hrest (fun hmem => (hname _ hmem).1 rfl) (segment?_name hname)
    obtain ⟨paths, hpaths, hflat⟩ := Option.map_eq_some_iff.mp ih
    have hsplit : Text.split '.' (s ++ renderRest (.field name :: rest)) =
        s :: Text.split '.' (name ++ renderRest rest) := by
      rw [renderRest, String.append_assoc, ← String.append_assoc]
      exact Text.split_append hs _
    rw [hsplit, List.mapM_cons, hq, hpaths]
    simp [hflat]
  | .index i :: rest, hp, s, q, hs, hq => by
    have hrest : Plain rest := fun n hn => hp n (List.mem_cons_of_mem _ hn)
    have hdot : '.' ∉ (s ++ "[" ++ (Nat.repr i ++ "]")).toList := by
      simp [hs, not_mem_toDigits (c := '.') (by decide) i]
    have ih := segments_renderRest hrest hdot (segment?_index hq i)
    rw [List.append_assoc, List.singleton_append] at ih
    rw [← ih, renderRest]
    simp only [String.append_assoc]

/-- A path is read back from its dotted form. -/
theorem ofText?_render {p : Path} (hp : p.Plain) (hroot : p.Rooted) :
    ofText? p.render = some p := by
  cases p with
  | nil => rfl
  | cons s rest =>
    obtain ⟨name, rfl, hname⟩ := hroot s rfl
    have hplain : IsPlain name := hp name List.mem_cons_self
    have hrest : Plain rest := fun n hn => hp n (List.mem_cons_of_mem _ hn)
    have hne : name ++ renderRest rest ≠ "" := fun h => hname (String.append_eq_empty_iff.mp h).1
    rw [render, ofText?, if_neg hne]
    exact segments_renderRest hrest (fun hmem => (hplain _ hmem).1 rfl) (segment?_name hplain)

end Path

end Livery
