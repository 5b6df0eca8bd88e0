import Mathlib.Logic.Relation
import Livery.Proofs.Nesting

/-!
# Calls

A component calls the components that are walked right below it (`Theme.Calls`) : those nearest
below it in the document, and those among the elements that are synthesized for it. The walk of a
document ends at some depth (`Theme.Ends`) only if it ends at a smaller one for every component that
is called, so it does not end if a component that is met calls itself in the end (`Theme.Endless`).
-/

namespace Livery

namespace Theme

variable {t : Theme}

/-! ## The depth at which a walk ends -/

/-- Whether the walk of a node stays above a depth. -/
def Ends (t : Theme) (d : ℕ) (n : Node) : Prop := (t.walk d none n).isSome = true

/-- The component around a node does not decide whether its walk ends. -/
theorem isSome_walk (t : Theme) : ∀ (d : ℕ) (within : Option String) (n : Node),
    (t.walk d within n).isSome = (t.walk d none n).isSome
  | 0, _, _ => rfl
  | d + 1, within, n => by
    cases n with
    | null => rfl
    | text s => rfl
    | number x => rfl
    | array nodes =>
      simp only [walk_array, Option.isSome_map, isSome_mapM, isSome_walk t d within]
    | element e =>
      rcases t.runeOf?_cases e with he | ⟨type, r, he⟩
      · simp only [walk_plain he, Option.isSome_map, isSome_mapM, isSome_walk t d within]
      · simp only [walk_component he, Option.isSome_map]

theorem ends_iff {d : ℕ} {n : Node} (within : Option String) :
    t.Ends d n ↔ (t.walk d within n).isSome = true := by
  rw [isSome_walk, Ends]

theorem not_ends_zero (n : Node) : ¬ t.Ends 0 n := by simp [Ends]

theorem ends_leaf (d : ℕ) {n : Node} (h : n.isBranch = false) : t.Ends (d + 1) n := by
  rw [Ends, walk_leaf d none h]
  rfl

/-- The walk of a node that is no component ends one level deeper than what is below it. -/
theorem Plain.ends_iff {n : Node} (h : t.Plain n) {d : ℕ} :
    t.Ends (d + 1) n ↔ ∀ m ∈ n.contents, t.Ends d m := by
  cases n with
  | array nodes =>
    simp only [Ends, walk_array, Option.isSome_map, isSome_mapM, List.all_eq_true, Node.contents]
  | element e =>
    have he := isComponent_eq_false_iff.1 (h e rfl)
    simp only [Ends, walk_plain he, Option.isSome_map, isSome_mapM, List.all_eq_true,
      Node.contents]
  | _ => exact iff_of_true (ends_leaf d rfl) (by simp [Node.contents])

theorem ends_component {d : ℕ} {e : Element} {type : String} {r : Rune}
    (he : t.runeOf? e = some (type, r)) :
    t.Ends (d + 1) (.element e) ↔ ∀ m ∈ t.prepared r e, t.Ends d m := by
  simp only [Ends, walk_component he, Option.isSome_map, isSome_mapM, List.all_eq_true,
    isSome_walk t d (some type)]

theorem Ends.mono {d d' : ℕ} {n : Node} (h : t.Ends d n) (hd : d ≤ d') : t.Ends d' n := by
  obtain ⟨out, hout⟩ := Option.isSome_iff_exists.mp h
  exact Option.isSome_iff_exists.mpr ⟨out, walk_mono hd hout⟩

/-- Where the walk of a node ends, so do the walks of the components nearest below. -/
theorem Ends.of_mem_nearest {d : ℕ} {n : Node} {b : Element} (h : t.Ends d n)
    (hb : b ∈ t.nearest n) : t.Ends d (.element b) := by
  refine nearest_induct (motive := fun n => ∀ d, t.Ends d n → t.Ends d (.element b)) ?here ?below
    hb d h
  case here => exact fun _ d hd => hd
  case below =>
    intro n m hp hm ih d hd
    cases d with
    | zero => exact absurd hd (not_ends_zero _)
    | succ d => exact (ih d (hp.ends_iff.mp hd m hm)).mono (Nat.le_succ d)

/-! ## Calls -/

/-- A component calls the components that are walked right below it. -/
def Calls (t : Theme) (e e' : Element) : Prop :=
  ∃ type r, t.runeOf? e = some (type, r) ∧ e' ∈ t.nearestAll (t.prepared r e)

/-- Whether a component that the walk of a node meets calls itself in the end. -/
def Endless (t : Theme) (n : Node) : Prop :=
  ∃ b ∈ t.nearest n, ∃ e, Relation.ReflTransGen t.Calls b e ∧ Relation.TransGen t.Calls e e

/-- The walk of a component that is called ends above the walk that calls it. -/
theorem Calls.exists_ends {e e' : Element} {d : ℕ} (h : t.Calls e e')
    (hd : t.Ends d (.element e)) : ∃ d' < d, t.Ends d' (.element e') := by
  obtain ⟨type, r, he, he'⟩ := h
  rw [nearestAll_eq, List.mem_flatMap] at he'
  obtain ⟨m, hm, hnear⟩ := he'
  cases d with
  | zero => exact absurd hd (not_ends_zero _)
  | succ d => exact ⟨d, Nat.lt_succ_self d, ((ends_component he).mp hd m hm).of_mem_nearest hnear⟩

theorem exists_ends_of_transGen {e e' : Element} {d : ℕ} (h : Relation.TransGen t.Calls e e')
    (hd : t.Ends d (.element e)) : ∃ d' < d, t.Ends d' (.element e') := by
  induction h with
  | single hcall => exact hcall.exists_ends hd
  | tail _ hcall ih =>
    obtain ⟨d', hlt, hd'⟩ := ih
    obtain ⟨d'', hlt', hd''⟩ := hcall.exists_ends hd'
    exact ⟨d'', Nat.lt_trans hlt' hlt, hd''⟩

/-- A component that calls itself in the end has no walk that ends. -/
theorem not_ends_of_loop {e : Element} (h : Relation.TransGen t.Calls e e) (d : ℕ) :
    ¬ t.Ends d (.element e) := by
  induction d using Nat.strongRecOn with
  | _ d ih =>
    intro hd
    obtain ⟨d', hlt, hd'⟩ := exists_ends_of_transGen h hd
    exact ih d' hlt hd'

theorem not_endless_of_ends {n : Node} {d : ℕ} (h : t.Ends d n) : ¬ t.Endless n := by
  rintro ⟨b, hb, e, hreach, hloop⟩
  have hd := h.of_mem_nearest hb
  rcases Relation.reflTransGen_iff_eq_or_transGen.mp hreach with rfl | hreach
  · exact not_ends_of_loop hloop d hd
  · obtain ⟨d', -, hd'⟩ := exists_ends_of_transGen hreach hd
    exact not_ends_of_loop hloop d' hd'

end Theme

end Livery
