import Mathlib.Data.List.Forall2
import Livery.Theme.Dressing

/-!
# What a walk returns

`Theme.walk` takes the depth it may reach. `Theme.Yields` forgets it : a node inside a component of
type `within` has a dressed form if the walk returns it at some depth. More depth changes nothing
(`walk_mono`), so there is at most one dressed form (`Yields.unique`).

Depth is out of the way after this module. `yields_array`, `yields_plain` and `yields_component` say
what the dressed form of each kind of node is made of, `Yields.induct` is the induction that
follows them, and `Node.induct` is the induction on documents themselves.
-/

namespace Livery

/-! ## Documents -/

namespace Node

/-- Whether a node has nodes below it, or could have. -/
def isBranch : Node → Bool
  | .array _ => true
  | .element _ => true
  | _ => false

theorem isElement_of_isBranch {n : Node} (h : n.isBranch = false) : n.isElement = false := by
  cases n <;> first | rfl | cases h

/-- The nodes right below a node. -/
def contents : Node → List Node
  | .array nodes => nodes
  | .element e => e.children
  | _ => []

theorem contents_leaf {n : Node} (h : n.isBranch = false) : n.contents = [] := by
  cases n <;> first | rfl | cases h

theorem leavesAll_eq : ∀ l : List Node, leavesAll l = l.flatMap leaves
  | [] => rfl
  | n :: rest => congrArg (n.leaves ++ ·) (leavesAll_eq rest)

theorem leaves_array (nodes : List Node) : (array nodes).leaves = nodes.flatMap leaves :=
  leavesAll_eq nodes

theorem leaves_element (e : Element) : (element e).leaves = e.children.flatMap leaves := by
  obtain ⟨name, attrs, children⟩ := e
  exact leavesAll_eq children

/-- Induction on documents : a node is reached from the nodes right below it. -/
theorem induct {motive : Node → Prop} (leaf : ∀ n, n.isBranch = false → motive n)
    (array : ∀ nodes, (∀ n ∈ nodes, motive n) → motive (.array nodes))
    (element : ∀ e : Element, (∀ n ∈ e.children, motive n) → motive (.element e)) (n : Node) :
    motive n := by
  refine @Node.rec motive (fun e => ∀ n ∈ e.children, motive n)
    (fun nodes => ∀ n ∈ nodes, motive n) (leaf _ rfl) (fun _ => leaf _ rfl)
    (fun _ => leaf _ rfl) array element (fun _ _ _ ih => ih) ?_ ?_ n
  · intro m hm
    simp at hm
  · intro n nodes hn hnodes m hm
    rcases List.mem_cons.mp hm with rfl | hm
    · exact hn
    · exact hnodes m hm

end Node

/-! ## Lists of results -/

section Lists

variable {α β : Type}

/-- Results in a row : one for each item, none missing. -/
theorem mapM_eq_some_iff (f : α → Option β) : ∀ (l : List α) (r : List β),
    l.mapM f = some r ↔ List.Forall₂ (fun a b => f a = some b) l r
  | [], r => by
    rw [List.mapM_nil, List.forall₂_nil_left_iff]
    simp [eq_comm]
  | a :: l, r => by
    rw [List.mapM_cons, List.forall₂_cons_left_iff]
    simp only [Option.bind_eq_bind, Option.bind_eq_some_iff, Option.pure_def, Option.some.injEq,
      mapM_eq_some_iff f l]
    constructor
    · rintro ⟨b, hb, bs, hbs, rfl⟩
      exact ⟨b, bs, hb, hbs, rfl⟩
    · rintro ⟨b, bs, hb, hbs, rfl⟩
      exact ⟨b, hb, bs, hbs, rfl⟩

/-- There are results in a row if none is missing. -/
theorem isSome_mapM (f : α → Option β) :
    ∀ l : List α, (l.mapM f).isSome = l.all fun a => (f a).isSome
  | [] => rfl
  | a :: l => by
    rw [List.mapM_cons, List.all_cons, ← isSome_mapM f l]
    cases f a <;> cases l.mapM f <;> rfl

/-- Results in a row, each changed afterwards. -/
theorem mapM_map_option {γ : Type} {f : α → Option γ} {g : α → Option β} {h : β → γ}
    (hf : ∀ a, f a = (g a).map h) : ∀ l : List α, l.mapM f = (l.mapM g).map (List.map h)
  | [] => rfl
  | a :: l => by
    rw [List.mapM_cons, List.mapM_cons, mapM_map_option hf l, hf]
    cases g a <;> cases l.mapM g <;> rfl

/-- Two functions that agree on the items give the same results in a row. -/
theorem mapM_congr_option {f g : α → Option β} :
    ∀ {l : List α}, (∀ a ∈ l, f a = g a) → l.mapM f = l.mapM g
  | [], _ => rfl
  | a :: l, h => by
    rw [List.mapM_cons, List.mapM_cons, h a List.mem_cons_self,
      mapM_congr_option fun b hb => h b (List.mem_cons_of_mem _ hb)]

/-- Every result comes from an item. -/
theorem exists_item_of_mem {R : α → β → Prop} {l : List α} {r : List β} (h : List.Forall₂ R l r)
    {b : β} (hb : b ∈ r) : ∃ a ∈ l, R a b := by
  induction h with
  | nil => simp at hb
  | cons hab _ ih =>
    rcases List.mem_cons.mp hb with rfl | hb
    · exact ⟨_, List.mem_cons_self, hab⟩
    · obtain ⟨a, ha, hr⟩ := ih hb
      exact ⟨a, List.mem_cons_of_mem _ ha, hr⟩

/-- Every item has its result, at its own place. -/
theorem exists_result_of_getElem? {R : α → β → Prop} {l : List α} {r : List β}
    (h : List.Forall₂ R l r) {i : ℕ} {a : α} (ha : l[i]? = some a) :
    ∃ b, r[i]? = some b ∧ R a b := by
  induction h generalizing i with
  | nil => simp at ha
  | cons hab _ ih =>
    cases i with
    | zero =>
      cases ha
      exact ⟨_, rfl, hab⟩
    | succ i => exact ih ha

/-- What is read off the results, if it can be read off the items. -/
theorem map_eq_map_of_forall₂ {γ : Type} {R : α → β → Prop} {f : α → γ} {g : β → γ} {l : List α}
    {r : List β} (h : List.Forall₂ R l r) (hR : ∀ a ∈ l, ∀ b, R a b → g b = f a) :
    r.map g = l.map f := by
  induction h with
  | nil => rfl
  | cons hab _ ih =>
    rw [List.map_cons, List.map_cons, hR _ List.mem_cons_self _ hab,
      ih fun a ha => hR a (List.mem_cons_of_mem _ ha)]

/-- The results of two lists in a row. -/
theorem forall₂_append_left {R : α → β → Prop} {l l' : List α} {r : List β}
    (h : List.Forall₂ R (l ++ l') r) :
    ∃ s s', r = s ++ s' ∧ List.Forall₂ R l s ∧ List.Forall₂ R l' s' := by
  refine ⟨r.take l.length, r.drop l.length, (List.take_append_drop _ _).symm, ?_, ?_⟩
  · have htake := List.forall₂_take l.length h
    rwa [List.take_left] at htake
  · have hdrop := List.forall₂_drop l.length h
    rwa [List.drop_left] at hdrop

/-- If every item has a result at some depth, and more depth keeps results, then one depth serves
them all. -/
theorem exists_depth_forall₂ {R : ℕ → α → β → Prop}
    (mono : ∀ {d d' a b}, d ≤ d' → R d a b → R d' a b) {l : List α} {r : List β}
    (h : List.Forall₂ (fun a b => ∃ d, R d a b) l r) : ∃ d, List.Forall₂ (R d) l r := by
  induction h with
  | nil => exact ⟨0, .nil⟩
  | cons ha _ ih =>
    obtain ⟨d, hd⟩ := ha
    obtain ⟨d', hd'⟩ := ih
    exact ⟨max d d', .cons (mono (Nat.le_max_left _ _) hd)
      (hd'.imp fun _ _ => mono (Nat.le_max_right _ _))⟩

end Lists

/-! ## The walk, one level at a time -/

namespace Theme

variable {t : Theme}

@[simp] theorem walk_zero (within : Option String) (n : Node) : t.walk 0 within n = none := rfl

theorem walk_leaf (d : ℕ) (within : Option String) {n : Node} (h : n.isBranch = false) :
    t.walk (d + 1) within n = some n := by
  cases n <;> first | rfl | cases h

theorem walk_array (d : ℕ) (within : Option String) (nodes : List Node) :
    t.walk (d + 1) within (.array nodes) = (nodes.mapM (t.walk d within)).map .array := rfl

theorem walk_element (d : ℕ) (within : Option String) (e : Element) :
    t.walk (d + 1) within (.element e) = match t.runeOf? e with
      | some (type, r) => ((t.prepared r e).mapM (t.walk d (some type))).map fun walked =>
          .element (t.dressed type r within e walked)
      | none => (e.children.mapM (t.walk d within)).map fun children =>
          .element { e with children } := rfl

theorem walk_component {e : Element} {type : String} {r : Rune} (h : t.runeOf? e = some (type, r))
    (d : ℕ) (within : Option String) :
    t.walk (d + 1) within (.element e) =
      ((t.prepared r e).mapM (t.walk d (some type))).map fun walked =>
        .element (t.dressed type r within e walked) := by
  rw [walk_element, h]

theorem walk_plain {e : Element} (h : t.runeOf? e = none) (d : ℕ) (within : Option String) :
    t.walk (d + 1) within (.element e) =
      (e.children.mapM (t.walk d within)).map fun children => .element { e with children } := by
  rw [walk_element, h]

/-- Whether an element is a component, and of which type. -/
theorem runeOf?_cases (t : Theme) (e : Element) :
    t.runeOf? e = none ∨ ∃ type r, t.runeOf? e = some (type, r) := by
  cases h : t.runeOf? e with
  | none => exact Or.inl rfl
  | some p => exact Or.inr ⟨p.1, p.2, rfl⟩

/-- A walk that returned returns the same at any greater depth. -/
theorem walk_mono : ∀ {d d' : ℕ} {within : Option String} {n out : Node}, d ≤ d' →
    t.walk d within n = some out → t.walk d' within n = some out
  | 0, _, _, _, _, _, h => by simp at h
  | d + 1, 0, _, _, _, hd, _ => by omega
  | d + 1, d' + 1, within, n, out, hd, h => by
    have below : ∀ {within : Option String} {l r : List Node},
        l.mapM (t.walk d within) = some r → l.mapM (t.walk d' within) = some r := by
      intro within l r hl
      rw [mapM_eq_some_iff] at hl ⊢
      exact hl.imp fun _ _ => walk_mono (by omega)
    cases n with
    | null => exact h
    | text s => exact h
    | number x => exact h
    | array nodes =>
      rw [walk_array, Option.map_eq_some_iff] at h ⊢
      obtain ⟨outs, houts, rfl⟩ := h
      exact ⟨outs, below houts, rfl⟩
    | element e =>
      rcases t.runeOf?_cases e with he | ⟨type, r, he⟩
      · rw [walk_plain he, Option.map_eq_some_iff] at h ⊢
        obtain ⟨outs, houts, rfl⟩ := h
        exact ⟨outs, below houts, rfl⟩
      · rw [walk_component he, Option.map_eq_some_iff] at h ⊢
        obtain ⟨outs, houts, rfl⟩ := h
        exact ⟨outs, below houts, rfl⟩

/-! ## Dressed forms -/

/-- `out` is the dressed form of `n` inside a component of type `within`, if any. -/
def Yields (t : Theme) (within : Option String) (n out : Node) : Prop :=
  ∃ d, t.walk d within n = some out

theorem Yields.unique {within : Option String} {n out out' : Node} (h : t.Yields within n out)
    (h' : t.Yields within n out') : out = out' := by
  obtain ⟨d, hd⟩ := h
  obtain ⟨d', hd'⟩ := h'
  have hmax := walk_mono (Nat.le_max_left d d') hd
  rw [walk_mono (Nat.le_max_right d d') hd', Option.some.injEq] at hmax
  exact hmax.symm

/-- The dressed forms of the nodes of a list, at a depth that serves them all. -/
theorem forall₂_yields_iff {within : Option String} {l r : List Node} :
    List.Forall₂ (t.Yields within) l r ↔ ∃ d, l.mapM (t.walk d within) = some r := by
  simp only [mapM_eq_some_iff]
  constructor
  · intro h
    exact exists_depth_forall₂ (R := fun d n out => t.walk d within n = some out) walk_mono h
  · rintro ⟨d, h⟩
    exact h.imp fun _ _ hd => ⟨d, hd⟩

/-- One level of a walk, whatever its depth : the depth can always be made one greater. -/
theorem yields_of_walk_succ {within : Option String} {n : Node} {l : List Node}
    {below : Option String} {f : List Node → Node}
    (h : ∀ d, t.walk (d + 1) within n = (l.mapM (t.walk d below)).map f) {out : Node} :
    t.Yields within n out ↔ ∃ outs, List.Forall₂ (t.Yields below) l outs ∧ out = f outs := by
  simp only [forall₂_yields_iff]
  constructor
  · rintro ⟨d, hd⟩
    cases d with
    | zero => simp at hd
    | succ d =>
      rw [h, Option.map_eq_some_iff] at hd
      obtain ⟨outs, houts, rfl⟩ := hd
      exact ⟨outs, ⟨d, houts⟩, rfl⟩
  · rintro ⟨outs, ⟨d, hd⟩, rfl⟩
    exact ⟨d + 1, by rw [h, hd, Option.map_some]⟩

theorem yields_leaf {within : Option String} {n out : Node} (h : n.isBranch = false) :
    t.Yields within n out ↔ out = n := by
  constructor
  · intro hy
    exact hy.unique ⟨1, walk_leaf 0 within h⟩
  · rintro rfl
    exact ⟨1, walk_leaf 0 within h⟩

theorem yields_array {within : Option String} {nodes : List Node} {out : Node} :
    t.Yields within (.array nodes) out ↔
      ∃ outs, List.Forall₂ (t.Yields within) nodes outs ∧ out = .array outs :=
  yields_of_walk_succ fun d => walk_array d within nodes

/-- An element that is no component keeps its name and attributes. -/
theorem yields_plain {within : Option String} {e : Element} (he : t.runeOf? e = none) {out : Node} :
    t.Yields within (.element e) out ↔
      ∃ outs, List.Forall₂ (t.Yields within) e.children outs ∧
        out = .element { e with children := outs } :=
  yields_of_walk_succ fun d => walk_plain he d within

/-- A component is put together from the dressed forms of its prepared children, which lie inside a
component of its own type. -/
theorem yields_component {within : Option String} {e : Element} {type : String} {r : Rune}
    (he : t.runeOf? e = some (type, r)) {out : Node} :
    t.Yields within (.element e) out ↔
      ∃ walked, List.Forall₂ (t.Yields (some type)) (t.prepared r e) walked ∧
        out = .element (t.dressed type r within e walked) :=
  yields_of_walk_succ fun d => walk_component he d within

/-- Induction along a walk that returns, on the depth that it needs. -/
@[elab_as_elim]
theorem Yields.induct {motive : Option String → Node → Node → Prop}
    (leaf : ∀ within n, n.isBranch = false → motive within n n)
    (array : ∀ within nodes outs,
      List.Forall₂ (fun n out => t.Yields within n out ∧ motive within n out) nodes outs →
      motive within (.array nodes) (.array outs))
    (plain : ∀ within (e : Element) outs, t.runeOf? e = none →
      List.Forall₂ (fun n out => t.Yields within n out ∧ motive within n out) e.children outs →
      motive within (.element e) (.element { e with children := outs }))
    (component : ∀ within (e : Element) type r outs, t.runeOf? e = some (type, r) →
      List.Forall₂ (fun n out => t.Yields (some type) n out ∧ motive (some type) n out)
        (t.prepared r e) outs →
      motive within (.element e) (.element (t.dressed type r within e outs)))
    {within : Option String} {n out : Node} (h : t.Yields within n out) :
    motive within n out := by
  obtain ⟨d, hd⟩ := h
  induction d generalizing within n out with
  | zero => simp at hd
  | succ d ih =>
    have below : ∀ {within : Option String} {l r : List Node},
        l.mapM (t.walk d within) = some r →
        List.Forall₂ (fun n out => t.Yields within n out ∧ motive within n out) l r := by
      intro within l r hl
      rw [mapM_eq_some_iff] at hl
      exact hl.imp fun _ _ hw => ⟨⟨d, hw⟩, ih hw⟩
    cases n with
    | null => rw [walk_leaf d within rfl] at hd; cases hd; exact leaf within _ rfl
    | text s => rw [walk_leaf d within rfl] at hd; cases hd; exact leaf within _ rfl
    | number x => rw [walk_leaf d within rfl] at hd; cases hd; exact leaf within _ rfl
    | array nodes =>
      rw [walk_array, Option.map_eq_some_iff] at hd
      obtain ⟨outs, houts, rfl⟩ := hd
      exact array within nodes outs (below houts)
    | element e =>
      rcases t.runeOf?_cases e with he | ⟨type, r, he⟩
      · rw [walk_plain he, Option.map_eq_some_iff] at hd
        obtain ⟨outs, houts, rfl⟩ := hd
        exact plain within e outs he (below houts)
      · rw [walk_component he, Option.map_eq_some_iff] at hd
        obtain ⟨outs, houts, rfl⟩ := hd
        exact component within e type r outs he (below houts)

end Theme

end Livery
