import Livery.Proofs.Calls

/-!
# The depth of a walk

A walk goes at most two levels deeper for each level of a document : one for the component, and one
for a content wrapper. Labels and element classes make nothing deeper. What is synthesized for a
component is walked below it and can be as deep as it likes, so `ends_of_depth_le` takes the depth
at which the walk of that ends, and bounds the walk of a whole document by it.

If no components are synthesized then a component calls those in its content alone, which are less
deep than itself (`depth_lt_of_calls`). Where this holds of all components that are met, none of
them calls itself in the end (`not_endless_of_calls`).
-/

namespace Livery

open Text (nonEmpty?)

namespace Node

/-! ## The depth of a document -/

theorem depthAll_cons (n : Node) (rest : List Node) :
    depthAll (n :: rest) = max n.depth (depthAll rest) := rfl

theorem depthAll_le_iff {k : ℕ} : ∀ {l : List Node}, depthAll l ≤ k ↔ ∀ m ∈ l, m.depth ≤ k
  | [] => iff_of_true (Nat.zero_le k) (by simp)
  | n :: rest => by rw [depthAll_cons, Nat.max_le, List.forall_mem_cons, depthAll_le_iff]

theorem depth_eq (n : Node) : n.depth = depthAll n.contents + 1 := by
  cases n with
  | element e =>
    obtain ⟨name, attrs, children⟩ := e
    rfl
  | _ => rfl

/-- What is right below a node is less deep. -/
theorem depth_le_succ_iff {n : Node} {k : ℕ} : n.depth ≤ k + 1 ↔ ∀ m ∈ n.contents, m.depth ≤ k := by
  rw [depth_eq, Nat.add_le_add_iff_right, depthAll_le_iff]

theorem depth_lt_of_mem {n m : Node} (h : m ∈ n.contents) : m.depth < n.depth := by
  rw [depth_eq n]
  exact Nat.lt_succ_of_le (depthAll_le_iff.mp (Nat.le_refl _) m h)

theorem depth_leaf {n : Node} (h : n.isBranch = false) : n.depth = 1 := by
  rw [depth_eq, contents_leaf h]
  rfl

theorem depth_pos (n : Node) : 0 < n.depth := by
  rw [depth_eq]
  exact Nat.succ_pos _

end Node

namespace Theme

variable {t : Theme}

/-! ## What dressing makes deeper -/

/-- Element classes make no components. -/
theorem Plain.marked {n : Node} (h : t.Plain n) (block : String) : t.Plain (t.marked block n) := by
  refine marked_induct block (motive := fun n m => t.Plain n → t.Plain m) (fun _ h => h) ?_ n h
  rintro e value hc - - e' he'
  cases he'
  rw [← hc]
  exact isComponent_classed e _ _

/-- Element classes make nothing deeper. -/
theorem depth_marked_le (block : String) {n : Node} {k : ℕ} (h : n.depth ≤ k) :
    (t.marked block n).depth ≤ k := by
  refine marked_induct block (motive := fun n m => ∀ k, n.depth ≤ k → m.depth ≤ k)
    (fun _ _ h => h) ?_ n k h
  intro e value _ ih k h
  cases k with
  | zero => exact absurd h (Nat.not_le_of_lt (Node.depth_pos _))
  | succ k =>
    rw [Node.depth_le_succ_iff] at h ⊢
    intro m hm
    obtain ⟨m', hm', rfl⟩ := List.mem_map.mp hm
    exact ih m' hm' k (h m' hm')

/-- Labels make nothing deeper. -/
theorem depth_labelled (r : Rune) (n : Node) : (r.labelled n).depth = n.depth := by
  cases n with
  | element e =>
    rw [r.labelled_element, Node.depth_eq, Node.depth_eq, Node.contents, Node.contents,
      r.children_relabelled]
  | _ => rw [r.labelled_of_not_element rfl]

/-- What is walked right below a component is synthesized, or its content. -/
theorem mem_prepared {r : Rune} {e : Element} {m : Node} (h : m ∈ t.prepared r e) :
    (∃ before, ∃ x ∈ r.synthesized (r.resolve e) before, m = t.marked (t.blockClass r) x) ∨
      ∃ x ∈ r.wrapped (e.children.map r.labelled), m = t.marked (t.blockClass r) x := by
  obtain ⟨x, hx, rfl⟩ := List.mem_map.mp h
  rcases Rune.mem_arranged hx with ⟨before, hx⟩ | hx
  · exact Or.inl ⟨before, x, hx, rfl⟩
  · exact Or.inr ⟨x, hx, rfl⟩

/-! ## The depth of a walk, one document at a time -/

section OneDocument

variable {Q : Element → Prop} {d k : ℕ}

/-- A node that is no component is walked one level deeper than what is below it. -/
theorem Plain.ends_succ (ih : ∀ n : Node, n.depth ≤ k → (∀ b ∈ t.nearest n, Q b) → t.Ends d n)
    {n : Node} (h : t.Plain n) (hk : n.depth ≤ k + 1) (hQ : ∀ b ∈ t.nearest n, Q b) :
    t.Ends (d + 1) n := by
  refine h.ends_iff.mpr fun m hm => ih m (Node.depth_le_succ_iff.mp hk m hm) fun b hb => hQ b ?_
  rw [h.nearest_eq]
  exact List.mem_flatMap.mpr ⟨m, hm, hb⟩

/-- The content of a component is walked one level deeper than its children, for there may be a
content wrapper. -/
theorem ends_content (ih : ∀ n : Node, n.depth ≤ k → (∀ b ∈ t.nearest n, Q b) → t.Ends d n)
    {r : Rune} {children : List Node} (block : String)
    (h : ∀ m ∈ children, m.depth ≤ k ∧ ∀ b ∈ t.nearestBelow r m, Q b) :
    ∀ x ∈ r.wrapped (children.map r.labelled), t.Ends (d + 1) (t.marked block x) := by
  intro x hx
  have hlabelled : ∀ m ∈ children.map r.labelled, m.depth ≤ k ∧ ∀ b ∈ t.nearest m, Q b := by
    intro m hm
    obtain ⟨child, hchild, rfl⟩ := List.mem_map.mp hm
    rw [depth_labelled, nearest_labelled]
    exact h child hchild
  cases hw : r.contentWrapper with
  | none =>
    rw [Rune.wrapped_none hw] at hx
    obtain ⟨hdepth, hnear⟩ := hlabelled x hx
    refine (ih _ (depth_marked_le block hdepth) ?_).mono (Nat.le_succ d)
    rwa [nearest_marked]
  | some w =>
    rw [Rune.wrapped_some hw, List.mem_singleton] at hx
    subst hx
    have hp : t.Plain (.element (w.around (children.map r.labelled))) := by
      rintro e he
      cases he
      exact isComponent_around t w _
    refine (hp.marked block).ends_succ ih (depth_marked_le block ?_) ?_
    · exact Node.depth_le_succ_iff.mpr fun m hm => (hlabelled m hm).1
    · rw [nearest_marked, hp.nearest_eq]
      intro b hb
      obtain ⟨m, hm, hb⟩ := List.mem_flatMap.mp hb
      exact (hlabelled m hm).2 b hb

end OneDocument

/--
A walk of a document of depth `k` ends at `d + 2 * k` if `d` is deep enough for what is synthesized
for the components in it. `Q` is what is known of these components; a component passes it on to
those nearest below it.
-/
theorem ends_of_depth_le {Q : Element → Prop} {d : ℕ}
    (hsynth : ∀ e type r before, Q e → t.runeOf? e = some (type, r) →
      ∀ m ∈ r.synthesized (r.resolve e) before, t.Ends d (t.marked (t.blockClass r) m))
    (hbelow : ∀ e type r, Q e → t.runeOf? e = some (type, r) →
      ∀ m ∈ e.children, ∀ b ∈ t.nearestBelow r m, Q b) :
    ∀ (k : ℕ) (n : Node), n.depth ≤ k → (∀ b ∈ t.nearest n, Q b) → t.Ends (d + 2 * k) n
  | 0, n, hk, _ => absurd hk (Nat.not_le_of_lt n.depth_pos)
  | k + 1, n, hk, hQ => by
    have ih := ends_of_depth_le hsynth hbelow k
    by_cases hn : t.Plain n
    · exact (hn.ends_succ ih hk hQ).mono (by omega)
    · obtain ⟨e, rfl, hc⟩ : ∃ e, n = .element e ∧ t.isComponent e = true := by
        simpa [Plain] using hn
      obtain ⟨type, r, he⟩ := isComponent_iff.1 hc
      have hQe : Q e := hQ e (by rw [nearest_component hc]; exact List.mem_singleton_self e)
      have hlevel : d + 2 * (k + 1) = d + 2 * k + 1 + 1 := by omega
      rw [hlevel, ends_component he]
      intro m hm
      rcases mem_prepared hm with ⟨before, x, hx, rfl⟩ | ⟨x, hx, rfl⟩
      · exact (hsynth e type r before hQe he x hx).mono (by omega)
      · refine ends_content ih (t.blockClass r) (fun m hm => ⟨?_, ?_⟩) x hx
        · exact Node.depth_le_succ_iff.mp hk m hm
        · exact hbelow e type r hQe he m hm

/-! ## Calls into the content alone -/

theorem depth_of_mem_nearest {b : Element} {n : Node} (h : b ∈ t.nearest n) :
    (Node.element b).depth ≤ n.depth := by
  refine nearest_induct (motive := fun n => (Node.element b).depth ≤ n.depth)
    (fun _ => Nat.le_refl _) (fun n m _ hm ih => ?_) h
  exact ih.trans (Node.depth_lt_of_mem hm).le

/-- A component for which no components are synthesized calls those in its content alone. -/
theorem depth_lt_of_calls {e e' : Element} {type : String} {r : Rune}
    (he : t.runeOf? e = some (type, r))
    (hsynth : ∀ before, ∀ x ∈ r.synthesized (r.resolve e) before, t.nearest x = [])
    (h : t.Calls e e') :
    (Node.element e').depth < (Node.element e).depth ∧
      ∃ m ∈ e.children, e' ∈ t.nearest (r.labelled m) := by
  obtain ⟨type', r', he', hmem⟩ := h
  obtain ⟨rfl, rfl⟩ := Prod.mk.inj (Option.some.inj (he.symm.trans he'))
  have hnone : ∀ before, t.nearestAll (r.synthesized (r.resolve e) before) = [] := by
    intro before
    rw [nearestAll_eq, List.flatMap_eq_nil_iff]
    exact hsynth before
  rw [nearestAll_prepared, hnone, hnone, List.nil_append, List.append_nil,
    List.mem_flatMap] at hmem
  obtain ⟨m, hm, hb⟩ := hmem
  rw [← nearest_labelled] at hb
  have hle := depth_of_mem_nearest hb
  rw [depth_labelled] at hle
  exact ⟨Nat.lt_of_le_of_lt hle (Node.depth_lt_of_mem hm), m, hm, hb⟩

/-- If all components that are met call less deep ones, then none calls itself in the end. -/
theorem not_endless_of_calls {Q : Element → Prop}
    (hcalls : ∀ e e', Q e → t.Calls e e' →
      Q e' ∧ (Node.element e').depth < (Node.element e).depth)
    {n : Node} (hn : ∀ b ∈ t.nearest n, Q b) : ¬ t.Endless n := by
  rintro ⟨b, hb, e, hreach, hloop⟩
  have hmet : ∀ x, Relation.ReflTransGen t.Calls b x → Q x := by
    intro x hx
    induction hx with
    | refl => exact hn b hb
    | tail _ hcall ih => exact (hcalls _ _ ih hcall).1
  have hbelow : ∀ x, Relation.TransGen t.Calls e x →
      Q x ∧ (Node.element x).depth < (Node.element e).depth := by
    intro x hx
    induction hx with
    | single hcall => exact hcalls _ _ (hmet e hreach) hcall
    | tail _ hcall ih =>
      obtain ⟨hQx, hlt⟩ := hcalls _ _ ih.1 hcall
      exact ⟨hQx, hlt.trans ih.2⟩
  exact Nat.lt_irrefl _ (hbelow e hloop).2

end Theme

end Livery
