import Livery.Json.Reader
import Livery.Proofs.Decoding

/-!
# Values that are read

The value of a text is well-formed : no object in it repeats a key. The tokens of a text hold no
objects (`Lexer.wellFormed_step`), and a step of the builder sets a field of an object that repeats
no key, so it keeps what is built so far well-formed (`Builder.wellFormed_step`). Both passes are
folds, and `foldlM_keeps` turns these steps into runs.
-/

namespace Livery

/-- What every step of a fold keeps is kept by the fold. -/
theorem foldlM_keeps {σ α : Type} {f : σ → α → Option σ} {P : σ → Prop} {Q : α → Prop}
    (step : ∀ {s a s'}, P s → Q a → f s a = some s' → P s') :
    ∀ {l : List α} {s s' : σ}, P s → (∀ a ∈ l, Q a) → l.foldlM f s = some s' → P s'
  | [], s, s', hs, _, h => by
    obtain rfl := Option.some.inj h
    exact hs
  | a :: l, s, s', hs, hl, h => by
    rw [List.foldlM_cons, Option.bind_eq_bind, Option.bind_eq_some_iff] at h
    obtain ⟨next, hnext, hrest⟩ := h
    exact foldlM_keeps step (step hs (hl a List.mem_cons_self) hnext)
      (fun b hb => hl b (List.mem_cons_of_mem _ hb)) hrest

/-- A pair that is there after a key was set is the pair that was set, or was there before. -/
theorem Entries.mem_of_mem_put {α : Type} {key : String} {value : α} {p : String × α} :
    ∀ {l : Entries α}, p ∈ l.put key value → p = (key, value) ∨ p ∈ l
  | [], h => Or.inl (List.mem_singleton.mp h)
  | (k, v) :: rest, h => by
    rw [put] at h
    split at h
    · rename_i hk
      rcases List.mem_cons.mp h with rfl | h
      · exact Or.inl (by rw [hk])
      · exact Or.inr (List.mem_cons_of_mem _ h)
    · rcases List.mem_cons.mp h with rfl | h
      · exact Or.inr List.mem_cons_self
      · exact (mem_of_mem_put h).imp_right (List.mem_cons_of_mem _)

namespace Json

theorem wellFormedItems_of_forall : ∀ {l : List Json}, (∀ v ∈ l, v.WellFormed) → WellFormedItems l
  | [], _ => by rw [WellFormedItems]; trivial
  | v :: l, h => by
    rw [WellFormedItems]
    exact ⟨h v List.mem_cons_self,
      wellFormedItems_of_forall fun w hw => h w (List.mem_cons_of_mem _ hw)⟩

theorem wellFormedFields_of_forall : ∀ {l : Entries Json}, (∀ p ∈ l, p.2.WellFormed) →
    WellFormedFields l
  | [], _ => by rw [WellFormedFields]; trivial
  | (k, v) :: l, h => by
    rw [WellFormedFields]
    exact ⟨h _ List.mem_cons_self,
      wellFormedFields_of_forall fun p hp => h p (List.mem_cons_of_mem _ hp)⟩

/-- An object stays well-formed when a field is set. -/
theorem WellFormed.put {fields : Entries Json} {v : Json} (h : (obj fields).WellFormed)
    (hv : v.WellFormed) (key : String) : (obj (fields.put key v)).WellFormed := by
  rw [WellFormed] at h ⊢
  refine ⟨Entries.nodup_put h.1 key v, wellFormedFields_of_forall fun p hp => ?_⟩
  rcases Entries.mem_of_mem_put hp with rfl | hp
  · exact hv
  · exact WellFormed.of_mem h.2 hp

theorem wellFormed_arr {items : List Json} (h : ∀ v ∈ items, v.WellFormed) :
    (arr items).WellFormed := by
  rw [WellFormed]
  exact wellFormedItems_of_forall h

theorem wellFormed_empty : (obj []).WellFormed := by
  rw [WellFormed, WellFormedFields]
  exact ⟨List.nodup_nil, trivial⟩

/-! ## Tokens -/

/-- A token whose value, if it is one, is well-formed. -/
def Token.WellFormed : Token → Prop
  | .value v => v.WellFormed
  | _ => True

theorem wellFormed_wordValue {cs : List Char} {v : Json} (h : wordValue? cs = some v) :
    (Token.value v).WellFormed := by
  rw [Token.WellFormed]
  unfold wordValue? at h
  split at h
  · obtain rfl := Option.some.inj h
    rw [WellFormed] <;> simp
  · split at h
    · obtain rfl := Option.some.inj h
      rw [WellFormed] <;> simp
    · split at h
      · obtain rfl := Option.some.inj h
        rw [WellFormed] <;> simp
      · obtain ⟨n, -, rfl⟩ := Option.map_eq_some_iff.mp h
        rw [WellFormed] <;> simp

namespace Lexer

/-- A lexer that has read well-formed tokens only. -/
def WellFormed (l : Lexer) : Prop := ∀ t ∈ l.tokens, t.WellFormed

theorem wellFormed_stepOutside {tokens : List Token} (h : ∀ t ∈ tokens, t.WellFormed) (c : Char) :
    (stepOutside tokens c).WellFormed := by
  unfold stepOutside
  split
  · exact h
  · split
    · exact List.forall_mem_cons.mpr ⟨trivial, h⟩
    · split <;> exact h

theorem wellFormed_step {l l' : Lexer} {c : Char} (h : l.WellFormed) (hstep : step l c = some l') :
    l'.WellFormed := by
  unfold step at hstep
  split at hstep
  · obtain rfl := Option.some.inj hstep
    exact wellFormed_stepOutside h c
  · split at hstep
    · obtain ⟨v, hv, rfl⟩ := Option.map_eq_some_iff.mp hstep
      exact wellFormed_stepOutside (List.forall_mem_cons.mpr ⟨wellFormed_wordValue hv, h⟩) c
    · obtain rfl := Option.some.inj hstep
      exact h
  · split at hstep
    · obtain rfl := Option.some.inj hstep
      exact List.forall_mem_cons.mpr ⟨trivial, h⟩
    · split at hstep
      · obtain rfl := Option.some.inj hstep
        exact h
      · split at hstep
        · cases hstep
        · obtain rfl := Option.some.inj hstep
          exact h
  · split at hstep
    · obtain rfl := Option.some.inj hstep
      exact h
    · obtain ⟨e, -, rfl⟩ := Option.map_eq_some_iff.mp hstep
      exact h
  · obtain ⟨d, -, hstep⟩ := Option.bind_eq_some_iff.mp hstep
    split at hstep
    · obtain ⟨m, -, rfl⟩ := Option.map_eq_some_iff.mp hstep
      exact h
    · obtain rfl := Option.some.inj hstep
      exact h
  · split at hstep
    · obtain rfl := Option.some.inj hstep
      exact h
    · cases hstep
  · split at hstep
    · obtain rfl := Option.some.inj hstep
      exact h
    · cases hstep

theorem wellFormed_tokens {cs : List Char} {tokens : List Token} (h : tokens? cs = some tokens) :
    ∀ t ∈ tokens, t.WellFormed := by
  obtain ⟨l, hl, hend⟩ := Option.bind_eq_some_iff.mp h
  have hread : l.WellFormed :=
    foldlM_keeps (P := WellFormed) (Q := fun _ => True) (fun hs _ => wellFormed_step hs)
      (fun t ht => absurd ht List.not_mem_nil) (fun _ _ => trivial) hl
  split at hend
  · obtain rfl := Option.some.inj hend
    exact fun t ht => hread t (List.mem_reverse.mp ht)
  · obtain ⟨v, hv, rfl⟩ := Option.map_eq_some_iff.mp hend
    intro t ht
    rcases List.mem_cons.mp (List.mem_reverse.mp ht) with rfl | ht
    · exact wellFormed_wordValue hv
    · exact hread t ht
  · cases hend

end Lexer

/-! ## Values -/

/-- What an open container holds so far is well-formed. -/
def Frame.WellFormed : Frame → Prop
  | .items done => ∀ v ∈ done, v.WellFormed
  | .fields done _ => (obj done).WellFormed

/-- What was built last is well-formed. -/
def Expected.WellFormed : Expected → Prop
  | .key done => (obj done).WellFormed
  | .colon done _ => (obj done).WellFormed
  | .next v => v.WellFormed
  | _ => True

namespace Builder

/-- All that is built so far is well-formed. -/
structure WellFormed (b : Builder) : Prop where
  expected : b.expected.WellFormed
  stack : ∀ f ∈ b.stack, f.WellFormed

/-- A container that opens is empty. -/
theorem opened?_cases {limit : Option Nat} {b b' : Builder} {c : Char}
    (h : opened? limit b c = some b') :
    b' = ⟨.firstItem, .items [] :: b.stack⟩ ∨ b' = ⟨.firstKey, b.stack⟩ := by
  cases limit <;> grind [opened?]

theorem wellFormed_opened {limit : Option Nat} {b b' : Builder} {c : Char} (h : b.WellFormed)
    (hstep : opened? limit b c = some b') : b'.WellFormed := by
  rcases opened?_cases hstep with rfl | rfl
  · exact ⟨trivial, List.forall_mem_cons.mpr ⟨fun v hv => absurd hv List.not_mem_nil, h.stack⟩⟩
  · exact ⟨trivial, h.stack⟩

theorem wellFormed_stepValue {limit : Option Nat} {b b' : Builder} {t : Token} (h : b.WellFormed)
    (ht : t.WellFormed) (hstep : stepValue limit b t = some b') : b'.WellFormed := by
  cases t with
  | mark c => exact wellFormed_opened h hstep
  | text s =>
    obtain rfl := Option.some.inj hstep
    exact ⟨by rw [Expected.WellFormed, Json.WellFormed] <;> simp, h.stack⟩
  | value v =>
    obtain rfl := Option.some.inj hstep
    exact ⟨ht, h.stack⟩

/-- A list of items that gets one more. -/
theorem wellFormed_grown_items {v : Json} {done : List Json} {rest : List Frame}
    (hv : v.WellFormed) (h : ∀ f ∈ Frame.items done :: rest, f.WellFormed) :
    (∀ w ∈ v :: done, w.WellFormed) ∧ ∀ f ∈ rest, f.WellFormed := by
  obtain ⟨hdone, hrest⟩ := List.forall_mem_cons.mp h
  exact ⟨List.forall_mem_cons.mpr ⟨hv, hdone⟩, hrest⟩

/-- An object in which a field is set. -/
theorem wellFormed_grown_fields {v : Json} {done : Entries Json} {key : String}
    {rest : List Frame} (hv : v.WellFormed)
    (h : ∀ f ∈ Frame.fields done key :: rest, f.WellFormed) :
    (obj (done.put key v)).WellFormed ∧ ∀ f ∈ rest, f.WellFormed := by
  obtain ⟨hdone, hrest⟩ := List.forall_mem_cons.mp h
  exact ⟨WellFormed.put hdone hv key, hrest⟩

theorem wellFormed_step {limit : Option Nat} {b b' : Builder} {t : Token} (h : b.WellFormed)
    (ht : t.WellFormed) (hstep : step limit b t = some b') : b'.WellFormed := by
  obtain ⟨hexpected, hstack⟩ := id h
  unfold step at hstep
  split at hstep
  · exact wellFormed_stepValue h ht hstep
  · split at hstep
    · rename_i done rest heq
      obtain rfl := Option.some.inj hstep
      rw [heq, List.forall_mem_cons] at hstack
      exact ⟨wellFormed_arr fun v hv => hstack.1 v (List.mem_reverse.mp hv), hstack.2⟩
    · cases hstep
  · exact wellFormed_stepValue h ht hstep
  · obtain rfl := Option.some.inj hstep
    exact ⟨wellFormed_empty, hstack⟩
  · obtain rfl := Option.some.inj hstep
    exact ⟨wellFormed_empty, hstack⟩
  · rename_i heq
    obtain rfl := Option.some.inj hstep
    rw [heq] at hexpected
    exact ⟨hexpected, hstack⟩
  · rename_i heq
    obtain rfl := Option.some.inj hstep
    rw [heq] at hexpected
    exact ⟨trivial, List.forall_mem_cons.mpr ⟨hexpected, hstack⟩⟩
  · rename_i v hv
    rw [hv] at hexpected
    split at hstep
    · rename_i done rest heq
      obtain rfl := Option.some.inj hstep
      exact ⟨trivial, List.forall_mem_cons.mpr (wellFormed_grown_items hexpected (heq ▸ hstack))⟩
    · rename_i done key rest heq
      obtain rfl := Option.some.inj hstep
      obtain ⟨hobject, hrest⟩ := wellFormed_grown_fields hexpected (heq ▸ hstack)
      exact ⟨hobject, hrest⟩
    · cases hstep
  · rename_i v hv
    rw [hv] at hexpected
    split at hstep
    · rename_i done rest heq
      obtain rfl := Option.some.inj hstep
      obtain ⟨hitems, hrest⟩ := wellFormed_grown_items hexpected (heq ▸ hstack)
      exact ⟨wellFormed_arr fun w hw => hitems w (List.mem_reverse.mp hw), hrest⟩
    · cases hstep
  · rename_i v hv
    rw [hv] at hexpected
    split at hstep
    · rename_i done key rest heq
      obtain rfl := Option.some.inj hstep
      obtain ⟨hobject, hrest⟩ := wellFormed_grown_fields hexpected (heq ▸ hstack)
      exact ⟨hobject, hrest⟩
    · cases hstep
  · cases hstep

theorem wellFormed_value {limit : Option Nat} {tokens : List Token} {v : Json}
    (ht : ∀ t ∈ tokens, t.WellFormed) (h : value? limit tokens = some v) : v.WellFormed := by
  obtain ⟨b, hb, hend⟩ := Option.bind_eq_some_iff.mp h
  have hstart : WellFormed {} := ⟨trivial, fun f hf => absurd hf List.not_mem_nil⟩
  have hbuilt : b.WellFormed := foldlM_keeps (P := WellFormed) wellFormed_step hstart ht hb
  split at hend
  · rename_i w heq _
    obtain rfl := Option.some.inj hend
    have hexpected := hbuilt.expected
    rw [heq] at hexpected
    exact hexpected
  · cases hend

end Builder

/-- No object repeats a key in the value of a text. -/
theorem wellFormed_of_read {limit : Option Nat} {s : String} {v : Json}
    (h : read limit s = some v) : v.WellFormed := by
  obtain ⟨tokens, htokens, hvalue⟩ := Option.bind_eq_some_iff.mp h
  exact Builder.wellFormed_value (Lexer.wellFormed_tokens htokens) hvalue

end Json

end Livery
