import Mathlib.Data.List.Forall2
import Livery.Check.Finding
import Livery.Proofs.Walk

/-!
# What decoders read

Where a decoder succeeds, the value that it read is known from the result : an array item by item
(`Json.decodeList_eq_some`), the fields of an object in their order, if the object is well-formed
(`Json.decodeDict_eq_some`), and a structure from its fields (`Json.decodeRecord_eq_some`). So the
names that a check takes from an undecoded object are the keys of the decoded map
(`Json.declared_eq_keys`).
-/

namespace Livery

namespace Json

/-! ## Well-formed values -/

theorem WellFormed.of_mem : ∀ {l : Entries Json} {p : String × Json}, WellFormedFields l →
    p ∈ l → p.2.WellFormed
  | (_, _) :: _, _, h, hp => by
    rw [WellFormedFields] at h
    rcases List.mem_cons.mp hp with rfl | hp
    · exact h.1
    · exact of_mem h.2 hp

theorem WellFormed.of_mem_items : ∀ {l : List Json} {v : Json}, WellFormedItems l → v ∈ l →
    v.WellFormed
  | _ :: _, _, h, hv => by
    rw [WellFormedItems] at h
    rcases List.mem_cons.mp hv with rfl | hv
    · exact h.1
    · exact of_mem_items h.2 hv

/-- The value of a field of a well-formed object is well-formed. -/
theorem WellFormed.lookup {fields : Entries Json} {key : String} {v : Json}
    (h : (obj fields).WellFormed) (hv : fields.lookup key = some v) : v.WellFormed := by
  rw [WellFormed] at h
  exact of_mem h.2 (Entries.mem_of_lookup hv)

/-! ## Fields and containers -/

section

variable {α : Type} {d : Decoder α} {fields : Entries Json} {key : String}

theorem optional_cases {x : Option α} (h : optional d fields key = some x) :
    (x = none ∧ (fields.lookup key = none ∨ fields.lookup key = some .null)) ∨
      ∃ v a, fields.lookup key = some v ∧ d v = some a ∧ x = some a := by
  rw [optional] at h
  split at h
  · rename_i hv
    exact Or.inl ⟨(Option.some.inj h).symm, Or.inl hv⟩
  · rename_i hv
    exact Or.inl ⟨(Option.some.inj h).symm, Or.inr hv⟩
  · rename_i v _ hv
    obtain ⟨a, ha, rfl⟩ := Option.map_eq_some_iff.mp h
    exact Or.inr ⟨v, a, hv, ha, rfl⟩

theorem defaulted_cases {value x : α} (h : defaulted d value fields key = some x) :
    (x = value ∧ fields.lookup key = none) ∨
      ∃ v, fields.lookup key = some v ∧ d v = some x := by
  rw [defaulted] at h
  split at h
  · rename_i hv
    exact Or.inl ⟨(Option.some.inj h).symm, hv⟩
  · rename_i v hv
    exact Or.inr ⟨v, hv, h⟩

theorem eq_str_of_asText? {v : Json} {s : String} (h : v.asText? = some s) : v = .str s := by
  cases v with
  | str s' => exact congrArg str (Option.some.inj h)
  | _ => cases h

theorem lookup_of_required_text {s : String} (h : required decodeText fields key = some s) :
    fields.lookup key = some (.str s) := by
  obtain ⟨v, hv, hs⟩ := Option.bind_eq_some_iff.mp h
  rw [hv, eq_str_of_asText? hs]

theorem decodeList_eq_some {v : Json} {x : List α} (h : decodeList d v = some x) :
    ∃ l, v = .arr l ∧ List.Forall₂ (fun w a => d w = some a) l x := by
  cases v with
  | arr l => exact ⟨l, rfl, (mapM_eq_some_iff d l x).mp h⟩
  | _ => cases h

theorem keys_eq_of_forall₂ {β : Type} {R : String × β → String × α → Prop} {l : Entries β}
    {l' : Entries α} (h : List.Forall₂ (fun p q => q.1 = p.1 ∧ R p q) l l') : l'.keys = l.keys := by
  rw [Entries.keys, Entries.keys, ← List.forall₂_eq_eq_eq, List.forall₂_map_left_iff,
    List.forall₂_map_right_iff]
  exact h.flip.imp fun _ _ hpq => hpq.1

/-- Without repeated keys a map has the values of the fields of an object, in their order. -/
theorem decodeDict_eq_some {v : Json} (hv : v.WellFormed) {x : Dict α}
    (h : decodeDict d v = some x) :
    ∃ l, v = .obj l ∧
      List.Forall₂ (fun p q => q.1 = p.1 ∧ d p.2 = some q.2) l x.entries := by
  cases v with
  | obj l =>
    rw [decodeDict, Option.map_eq_some_iff] at h
    obtain ⟨pairs, hpairs, rfl⟩ := h
    have hl : List.Forall₂ (fun p q => q.1 = p.1 ∧ d p.2 = some q.2) l pairs := by
      refine ((mapM_eq_some_iff _ l pairs).mp hpairs).imp fun p q hpq => ?_
      obtain ⟨a, ha, rfl⟩ := Option.map_eq_some_iff.mp hpq
      exact ⟨rfl, ha⟩
    rw [WellFormed] at hv
    rw [Dict.entries_ofList (keys_eq_of_forall₂ hl ▸ hv.1)]
    exact ⟨l, rfl, hl⟩
  | _ => cases h

@[simp] theorem decodeRecord_obj (names : List String) (read : Entries Json → Option α)
    (fields : Entries Json) : decodeRecord names read (.obj fields) = read fields := rfl

theorem decodeRecord_eq_some {names : List String} {read : Entries Json → Option α} {v : Json}
    {a : α} (h : decodeRecord names read v = some a) :
    ∃ fields, recordFields? names v = some fields ∧ read fields = some a :=
  Option.bind_eq_some_iff.mp h

/-- The names that an object declares are the keys of a map. -/
theorem declared_eq_keys (hfields : (obj fields).WellFormed) {x : Dict α}
    (h : defaulted (decodeDict d) ∅ fields key = some x) : Check.declared fields key = x.keys := by
  rw [Check.declared]
  rcases defaulted_cases h with ⟨rfl, hv⟩ | ⟨v, hv, hx⟩ <;> rw [hv]
  · rfl
  · obtain ⟨l, rfl, hl⟩ := decodeDict_eq_some (hfields.lookup hv) hx
    exact (keys_eq_of_forall₂ hl).symm

end

end Json

end Livery
