import Mathlib.Tactic.Ring
import Livery.Proofs.Texts

/-!
# Groups of synthesized elements

What is synthesized for a component depends on its type and on the values of its modifiers alone : a
`Group`. The values are texts of the theme or of the document, so there are finitely many groups
(`Theme.groups`), and their number is bounded by the numbers of texts and of modifiers
(`length_groups_le`).
-/

namespace Livery

/-! ## Choices of values -/

section Choices

variable {α : Type} (given : List String)

/-- The ways of giving keys a text or none, in order. -/
def choices : Entries α → List (Entries String)
  | [] => [[]]
  | p :: rest => choices rest ++ given.flatMap fun v => (choices rest).map fun l => (p.1, v) :: l

theorem length_choices : ∀ l : Entries α, (choices given l).length = (given.length + 1) ^ l.length
  | [] => rfl
  | p :: rest => by
    rw [choices, List.length_append, List.length_flatMap]
    simp only [List.length_map, length_choices rest, List.map_const', List.sum_replicate_nat]
    rw [List.length_cons, Nat.pow_succ]
    ring

variable {given}

theorem mem_choices (f : String × α → Option String) : ∀ l : Entries α,
    (∀ p ∈ l, ∀ v, f p = some v → v ∈ given) →
    (l.filterMap fun p => (f p).map fun v => (p.1, v)) ∈ choices given l
  | [], _ => List.mem_singleton_self _
  | p :: rest, h => by
    have ih := mem_choices f rest fun q hq => h q (List.mem_cons_of_mem _ hq)
    rw [choices, List.mem_append]
    cases hp : f p with
    | none =>
      rw [List.filterMap_cons_none (by rw [hp]; rfl)]
      exact Or.inl ih
    | some v =>
      rw [List.filterMap_cons_some (b := (p.1, v)) (by rw [hp]; rfl)]
      refine Or.inr (List.mem_flatMap.mpr ⟨v, h p List.mem_cons_self v hp, ?_⟩)
      exact List.mem_map.mpr ⟨_, ih, rfl⟩

end Choices

/-! ## Groups -/

/-- A component type with values of its modifiers. -/
abbrev Group := String × Dict String

namespace Theme

/-- The texts that a theme can bring into a document. -/
def texts (t : Theme) : List String := t.runes.values.flatMap Rune.texts

/-- The groups of the types of a theme, with modifier values from some texts. -/
def groups (t : Theme) (given : List String) : List Group :=
  t.runes.entries.flatMap fun p =>
    (choices given p.2.modifiers.entries).map fun l => (p.1, Dict.ofList l)

/-- The nearest components among the elements that are synthesized for a group. -/
def spawned (t : Theme) (g : Group) : List Element :=
  match t.runes.get? g.1 with
  | some r => t.nearestAll (r.synthesized g.2 true) ++ t.nearestAll (r.synthesized g.2 false)
  | none => []

variable {t : Theme} {given : List String}

theorem rune_texts_subset {type : String} {r : Rune} (h : t.runes.get? type = some r) :
    r.texts ⊆ t.texts := by
  intro v hv
  exact List.mem_flatMap.mpr ⟨r, t.runes.mem_values_of_get? h, hv⟩

/-- The group of a component is one of the groups of the theme. -/
theorem mem_groups (ht : t.texts ⊆ given) {e : Element} {type : String} {r : Rune}
    (he : t.runeOf? e = some (type, r)) (hd : (Node.element e).Draws given) :
    (type, r.resolve e) ∈ t.groups given := by
  have hr := get?_of_runeOf? he
  refine List.mem_flatMap.mpr ⟨(type, r), t.runes.mem_entries_of_get? hr, ?_⟩
  refine List.mem_map.mpr ⟨_, mem_choices (fun p => Rune.modifierValue? e p.1 p.2) _ ?_, rfl⟩
  intro p hp v hv
  refine Rune.mem_of_modifierValue? hd (fun w hw => ?_) hv
  exact ht (rune_texts_subset hr (Rune.default_mem_texts hp hw))

/-- A component calls what is spawned for its group. -/
theorem calls_of_mem_spawned {e b : Element} {type : String} {r : Rune}
    (he : t.runeOf? e = some (type, r)) (hb : b ∈ t.spawned (type, r.resolve e)) : t.Calls e b := by
  refine ⟨type, r, he, ?_⟩
  rw [spawned, get?_of_runeOf? he] at hb
  rw [nearestAll_prepared]
  rcases List.mem_append.mp hb with hb | hb
  · exact List.mem_append_left _ (List.mem_append_left _ hb)
  · exact List.mem_append_right _ hb

/-- A component calls the components nearest below it. -/
theorem calls_of_mem_nearestBelow {e b : Element} {type : String} {r : Rune}
    (he : t.runeOf? e = some (type, r)) {m : Node} (hm : m ∈ e.children)
    (hb : b ∈ t.nearestBelow r m) : t.Calls e b := by
  refine ⟨type, r, he, ?_⟩
  rw [nearestAll_prepared]
  exact List.mem_append_left _ (List.mem_append_right _ (List.mem_flatMap.mpr ⟨m, hm, hb⟩))

/-- What is synthesized for a component has its nearest components among those spawned. -/
theorem mem_spawned {e b : Element} {type : String} {r : Rune}
    (he : t.runeOf? e = some (type, r)) {before : Bool} {x : Node}
    (hx : x ∈ r.synthesized (r.resolve e) before) (hb : b ∈ t.nearest x) :
    b ∈ t.spawned (type, r.resolve e) := by
  have hall : b ∈ t.nearestAll (r.synthesized (r.resolve e) before) := by
    rw [nearestAll_eq]
    exact List.mem_flatMap.mpr ⟨x, hx, hb⟩
  rw [spawned, get?_of_runeOf? he]
  cases before with
  | true => exact List.mem_append_left _ hall
  | false => exact List.mem_append_right _ hall

/-! ## The number of groups -/

theorem size_le_modifierCount {r : Rune} (h : r ∈ t.runes.values) :
    r.modifiers.size ≤ t.modifierCount := by
  have hmem : r.modifiers.size ∈ t.runes.values.map fun r => r.modifiers.size :=
    List.mem_map.mpr ⟨r, h, rfl⟩
  rw [modifierCount, List.foldl_max_eq_max (List.ne_nil_of_mem hmem)]
  exact le_max_of_le_right (List.le_max_of_mem hmem)

theorem length_groups_le (t : Theme) (given : List String) :
    (t.groups given).length ≤ t.runes.size * (given.length + 1) ^ t.modifierCount := by
  have hchoices : ∀ x ∈ t.runes.entries.map fun p => (choices given p.2.modifiers.entries).length,
      x ≤ (given.length + 1) ^ t.modifierCount := by
    intro x hx
    obtain ⟨p, hp, rfl⟩ := List.mem_map.mp hx
    rw [length_choices]
    exact Nat.pow_le_pow_right (Nat.succ_pos _)
      (size_le_modifierCount (List.mem_map.mpr ⟨p, hp, rfl⟩))
  have hsum := List.sum_le_card_nsmul _ _ hchoices
  rw [List.length_map, Nat.nsmul_eq_mul] at hsum
  rw [groups, List.length_flatMap]
  simp only [List.length_map]
  exact hsum

end Theme

/-- A rune holds no more texts than it is heavy. -/
theorem Rune.length_texts_le (r : Rune) :
    r.texts.length ≤ r.modifiers.size + r.autoLabel.size +
      total (r.scaffold.values.map StructureEntry.weight) := by
  have hdefaults :
      (r.modifiers.values.filterMap ModifierSpec.default).length ≤ r.modifiers.size := by
    refine (List.length_filterMap_le _ _).trans ?_
    rw [Dict.values, List.length_map, Dict.size]
  have hlabels : r.autoLabel.values.length = r.autoLabel.size := by
    rw [Dict.values, List.length_map, Dict.size]
  have hentries : (r.scaffold.entries.flatMap fun p => p.2.texts p.1).length ≤
      total (r.scaffold.values.map StructureEntry.weight) := by
    rw [List.length_flatMap, Dict.values, List.map_map, total_eq_sum]
    exact List.sum_le_sum fun p _ => p.2.length_texts_le p.1
  rw [Rune.texts, List.length_append, List.length_append]
  omega

namespace Theme

theorem length_texts_le (t : Theme) : t.texts.length ≤ t.weight := by
  rw [texts, List.length_flatMap, weight, total_eq_sum]
  refine List.sum_le_sum fun r _ => ?_
  have h := r.length_texts_le
  omega

theorem size_runes_le (t : Theme) : t.runes.size ≤ t.weight := by
  have hpos : ∀ x ∈ t.runes.values.map fun r => r.modifiers.size + r.autoLabel.size + 2 +
      total (r.scaffold.values.map StructureEntry.weight), 1 ≤ x := by
    intro x hx
    obtain ⟨r, -, rfl⟩ := List.mem_map.mp hx
    omega
  have hsum := List.card_nsmul_le_sum _ _ hpos
  rw [List.length_map, Nat.nsmul_eq_mul, Nat.mul_one, Dict.values, List.length_map] at hsum
  exact hsum

theorem scaffold_weight_le {t : Theme} {type : String} {r : Rune} (h : t.runes.get? type = some r) :
    total (r.scaffold.values.map StructureEntry.weight) ≤ t.weight := by
  refine le_trans ?_ (List.le_sum_of_mem (List.mem_map.mpr ⟨r, t.runes.mem_values_of_get? h, rfl⟩))
  omega

end Theme

end Livery
