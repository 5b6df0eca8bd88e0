import Mathlib.Data.List.Perm.Subperm
import Livery.Check.Theme
import Livery.Proofs.Groups
import Livery.Theme.Coding

/-!
# When a walk ends

Going down a document a walk gets shallower, except where it enters synthesized elements. These come
in finitely many groups. A walk that enters the group of a component twice on its way down has met
a component that calls itself, because both times the same elements are synthesized. So if no
component calls itself in the end, then the walk enters each group at most once on the way down, and
this bounds its depth (`ends_of_met`) by the depth that `Theme.transform` allows (`ends_reach`).

With `not_endless_of_ends` this says when a dressed form exists : exactly if the walk meets no
component that calls itself in the end. There are themes that pass the check and have such
components.
-/

namespace Livery

namespace Theme

variable {t : Theme} {given : List String} {seen : List Group}

/-! ## Components on the way down -/

/-- What is known of a component on the way down, where `seen` are the groups entered so far. -/
structure Met (t : Theme) (given : List String) (seen : List Group) (e : Element) : Prop where
  /-- Its attributes are from the given texts. -/
  draws : (Node.element e).Draws given
  /-- Each group that was entered spawned a component that leads here. -/
  spawned : ∀ g ∈ seen, ∃ s ∈ t.spawned g, Relation.ReflTransGen t.Calls s e
  /-- No component from here on calls itself in the end. -/
  loopless : ∀ x, Relation.ReflTransGen t.Calls e x → ¬ Relation.TransGen t.Calls x x

/-- The components nearest below are met next, in the groups entered so far. -/
theorem Met.below (ht : t.texts ⊆ given) {e : Element} {type : String} {r : Rune}
    (h : t.Met given seen e) (he : t.runeOf? e = some (type, r)) {m : Node} (hm : m ∈ e.children)
    {b : Element} (hb : b ∈ t.nearestBelow r m) : t.Met given seen b where
  draws := by
    have hr := List.Subset.trans (rune_texts_subset (get?_of_runeOf? he)) ht
    have hlabelled := Rune.draws_labelled hr ((Node.draws_element_iff.mp h.draws).2 m hm)
    rw [← nearest_labelled] at hb
    exact draws_of_mem_nearest hlabelled hb
  spawned := by
    intro g hg
    obtain ⟨s, hs, hreach⟩ := h.spawned g hg
    exact ⟨s, hs, hreach.tail (calls_of_mem_nearestBelow he hm hb)⟩
  loopless := by
    intro x hx
    exact h.loopless x (hx.head (calls_of_mem_nearestBelow he hm hb))

/-- The spawned components are met next, in one more group. -/
theorem Met.spawn {e : Element} {type : String} {r : Rune} (h : t.Met given seen e)
    (he : t.runeOf? e = some (type, r)) {b : Element} (hb : b ∈ t.spawned (type, r.resolve e))
    (hd : (Node.element b).Draws given) : t.Met given ((type, r.resolve e) :: seen) b where
  draws := hd
  spawned := by
    intro g hg
    rcases List.mem_cons.mp hg with rfl | hg
    · exact ⟨b, hb, .refl⟩
    · obtain ⟨s, hs, hreach⟩ := h.spawned g hg
      exact ⟨s, hs, hreach.tail (calls_of_mem_spawned he hb)⟩
  loopless := by
    intro x hx
    exact h.loopless x (hx.head (calls_of_mem_spawned he hb))

/-- The group of a component that is met is a new one. -/
theorem Met.not_mem_seen {e : Element} {type : String} {r : Rune} (h : t.Met given seen e)
    (he : t.runeOf? e = some (type, r)) : (type, r.resolve e) ∉ seen := by
  intro hg
  obtain ⟨s, hs, hreach⟩ := h.spawned _ hg
  -- the component spawns what led to it
  exact h.loopless e .refl (Relation.TransGen.head' (calls_of_mem_spawned he hs) hreach)

/-- So there is one more group to enter. -/
theorem Met.length_lt (ht : t.texts ⊆ given) {e : Element} {type : String} {r : Rune}
    (h : t.Met given seen e) (he : t.runeOf? e = some (type, r)) (hnodup : seen.Nodup)
    (hseen : seen ⊆ t.groups given) :
    ((type, r.resolve e) :: seen).Nodup ∧ (type, r.resolve e) :: seen ⊆ t.groups given ∧
      seen.length < (t.groups given).length := by
  have hnew := List.nodup_cons.mpr ⟨h.not_mem_seen he, hnodup⟩
  have hsub := List.cons_subset.mpr ⟨mem_groups ht he h.draws, hseen⟩
  exact ⟨hnew, hsub, (List.subperm_of_subset hnew hsub).length_le⟩

/-! ## The depth -/

/-- What is synthesized for a component has its attributes from the given texts, and is no deeper
than the theme is heavy. -/
theorem draws_synthesized (ht : t.texts ⊆ given) {e : Element} {type : String} {r : Rune}
    (he : t.runeOf? e = some (type, r)) (hd : (Node.element e).Draws given) {before : Bool}
    {x : Node} (hx : x ∈ r.synthesized (r.resolve e) before) :
    x.Draws given ∧ x.depth ≤ t.weight := by
  have hrune := get?_of_runeOf? he
  have hr := List.Subset.trans (rune_texts_subset hrune) ht
  obtain ⟨hdraws, hdepth⟩ :=
    Rune.draws_synthesized hr (fun _ _ => Rune.mem_of_get?_resolve hr hd) hx
  exact ⟨hdraws, hdepth.trans (scaffold_weight_le hrune)⟩

/-- A walk ends if no more than `k` groups are left to enter. -/
theorem ends_of_met (ht : t.texts ⊆ given) (k : ℕ) : ∀ seen : List Group, seen.Nodup →
    seen ⊆ t.groups given → (t.groups given).length ≤ seen.length + k →
    ∀ n : Node, (∀ b ∈ t.nearest n, t.Met given seen b) →
      t.Ends (2 * t.weight * k + 2 * n.depth) n := by
  induction k with
  | zero =>
    intro seen hnodup hseen hall n hn
    refine ends_of_depth_le ?_ (fun e type r hQ he m hm b hb => hQ.below ht he hm hb) _ n le_rfl hn
    intro e type r before hQ he x hx
    have hroom := (hQ.length_lt ht he hnodup hseen).2.2
    omega
  | succ k ih =>
    intro seen hnodup hseen hall n hn
    refine ends_of_depth_le ?_ (fun e type r hQ he m hm b hb => hQ.below ht he hm hb) _ n le_rfl hn
    intro e type r before hQ he x hx
    obtain ⟨hnodup', hseen', -⟩ := hQ.length_lt ht he hnodup hseen
    obtain ⟨hdraws, hdepth⟩ := draws_synthesized ht he hQ.draws hx
    have hroom : (t.groups given).length ≤ ((type, r.resolve e) :: seen).length + k := by
      rw [List.length_cons]
      omega
    have hends := ih _ hnodup' hseen' hroom (t.marked (t.blockClass r) x) (by
      intro b hb
      rw [nearest_marked] at hb
      exact hQ.spawn he (mem_spawned he hx hb) (draws_of_mem_nearest hdraws hb))
    refine hends.mono ?_
    have hmarked := depth_marked_le (t := t) (t.blockClass r) hdepth
    rw [Nat.mul_succ]
    omega

/-- The depth that `transform` allows is enough for all groups. -/
theorem depth_le_reach (t : Theme) (n : Node) {groups texts : ℕ}
    (hgroups : groups ≤ t.weight * (texts + 1) ^ t.modifierCount)
    (htexts : texts ≤ t.weight + total (n.elements.map fun e => e.attrs.size + 1)) :
    2 * t.weight * groups + 2 * n.depth ≤ t.reach n := by
  obtain ⟨w, hw⟩ : ∃ w, w = t.weight + total (n.elements.map fun e => e.attrs.size + 1) + n.depth :=
    ⟨_, rfl⟩
  have hreach : t.reach n = 4 * (w + 1) ^ (t.modifierCount + 2) := by
    rw [hw, reach, Nat.pow_eq]
  have hchoices : (texts + 1) ^ t.modifierCount ≤ (w + 1) ^ t.modifierCount :=
    Nat.pow_le_pow_left (by omega) _
  have hsquare : t.weight * t.weight ≤ (w + 1) ^ 2 := by
    rw [Nat.pow_two]
    exact Nat.mul_le_mul (by omega) (by omega)
  have hgroup : t.weight * groups ≤ (w + 1) ^ (t.modifierCount + 2) := by
    calc t.weight * groups
        ≤ t.weight * (t.weight * (w + 1) ^ t.modifierCount) :=
          Nat.mul_le_mul_left _ (hgroups.trans (Nat.mul_le_mul_left _ hchoices))
      _ = t.weight * t.weight * (w + 1) ^ t.modifierCount := by rw [Nat.mul_assoc]
      _ ≤ (w + 1) ^ 2 * (w + 1) ^ t.modifierCount := Nat.mul_le_mul_right _ hsquare
      _ = (w + 1) ^ (t.modifierCount + 2) := by
        rw [← Nat.pow_add, Nat.add_comm 2]
  have hdepth : n.depth ≤ (w + 1) ^ (t.modifierCount + 2) := by
    have hbase : w + 1 ≤ (w + 1) ^ (t.modifierCount + 2) :=
      Nat.le_self_pow (Nat.succ_ne_zero _) _
    omega
  rw [hreach, Nat.mul_assoc]
  omega

/-- A walk that meets no component that calls itself in the end stays above the depth that
`transform` allows. -/
theorem ends_reach {n : Node} (h : ¬ t.Endless n) : t.Ends (t.reach n) n := by
  have hmet : ∀ b ∈ t.nearest n, t.Met (t.texts ++ n.attrTexts) [] b := by
    intro b hb
    refine ⟨?_, ?_, ?_⟩
    · exact draws_of_mem_nearest (Node.draws_of_subset (List.subset_append_right _ _)) hb
    · intro g hg
      cases hg
    · intro x hx hloop
      exact h ⟨b, hb, x, hx, hloop⟩
  have hends := ends_of_met (List.subset_append_left _ _) _ [] List.nodup_nil
    (List.nil_subset _) (Nat.le_add_left _ _) n hmet
  have hgroups := (length_groups_le t (t.texts ++ n.attrTexts)).trans
    (Nat.mul_le_mul_right _ t.size_runes_le)
  refine hends.mono (depth_le_reach t n hgroups ?_)
  rw [List.length_append]
  exact Nat.add_le_add t.length_texts_le n.length_attrTexts_le

/-! ## When a dressed form exists -/

/--
A node has a dressed form exactly if the walk of it meets no component that calls itself in the
end, by the components below it and those synthesized for it. `transform` then finds it.
-/
theorem transform_returns_iff (t : Theme) (within : Option String) (n : Node) :
    ((∃ d, (t.walk d within n).isSome = true) ↔ ¬ t.Endless n) ∧
      ((t.transform within n).isSome = true ↔ ¬ t.Endless n) := by
  have hreturns : (t.transform within n).isSome = true ↔ ¬ t.Endless n := by
    rw [transform, ← ends_iff]
    exact ⟨not_endless_of_ends, ends_reach⟩
  refine ⟨⟨?_, ?_⟩, hreturns⟩
  · rintro ⟨d, hd⟩
    exact not_endless_of_ends ((ends_iff within).mpr hd)
  · intro h
    exact ⟨t.reach n, hreturns.mpr h⟩

/-- `transform` finds every dressed form that there is. -/
theorem transform_eq_some_iff {within : Option String} {n out : Node} :
    t.transform within n = some out ↔ t.Yields within n out := by
  constructor
  · intro h
    exact ⟨t.reach n, h⟩
  · rintro ⟨d, hd⟩
    have hends : t.Ends d n := (ends_iff within).mpr (by rw [hd]; rfl)
    obtain ⟨out', hout'⟩ := Option.isSome_iff_exists.mp
      ((ends_iff within).mp (ends_reach (not_endless_of_ends hends)))
    rw [transform, hout', Yields.unique ⟨_, hout'⟩ ⟨_, hd⟩]

end Theme

/-! ## A theme without end -/

/-- A box, with the label of the boxes inside boxes or without one. -/
def box (label : Option String) : Element :=
  ⟨"div", .ofList (label.toList.map (labelKey, ·) ++ [("typeof", "Box")]), []⟩

/-- Boxes get a box inside. -/
def boxRune : Rune where
  block := "box"
  scaffold := .ofList [("inner", { tag := "div", attrs := .ofList [("typeof", .literal "Box")] })]

/-- A theme of boxes. -/
def boxTheme : Theme where
  classPrefix := "rf"
  tokenPrefix := "--rf"
  runes := .ofList [("Box", boxRune)]

/-- The configuration of `boxTheme`. -/
def boxConfig : Json :=
  .obj [("prefix", .str "rf"), ("tokenPrefix", .str "--rf"), ("runes", .obj [("Box", .obj
    [("block", .str "box"), ("structure", .obj [("inner", .obj
      [("tag", .str "div"), ("attrs", .obj [("typeof", .str "Box")])])])])])]

theorem calls_box (label : Option String) : boxTheme.Calls (box label) (box (some "inner")) := by
  have hinner : boxTheme.nearestAll (boxTheme.prepared boxRune (box label)) =
      [box (some "inner")] := by
    cases label <;> cbv
  refine ⟨"Box", boxRune, ?_, ?_⟩
  · cases label <;> rfl
  · rw [hinner]
    exact List.mem_singleton_self _

/-- The check of a theme finds nothing wrong with a box inside each box, and yet no walk of a box
ends. -/
theorem checked_theme_without_end :
    Check.theme boxConfig = [] ∧ Theme.ofJson? boxConfig = some boxTheme ∧
    ∀ d within, boxTheme.walk d within (.element (box none)) = none := by
  refine ⟨by cbv, by cbv, fun d within => ?_⟩
  have hloop : Relation.TransGen boxTheme.Calls (box (some "inner")) (box (some "inner")) :=
    .single (calls_box _)
  have hendless : boxTheme.Endless (.element (box none)) := by
    refine ⟨box none, List.mem_singleton_self _, _, .single (calls_box none), hloop⟩
  rw [← Option.not_isSome_iff_eq_none, ← Theme.ends_iff]
  exact fun hends => Theme.not_endless_of_ends hends hendless

end Livery
