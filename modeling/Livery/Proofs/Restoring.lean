import Livery.Proofs.Children
import Livery.Proofs.Decoding

/-!
# Writing what is read back

A value is restored if its decoder reads it back from what is written for it :
`d (write a) = some a`. Containers are restored if their items are (`Json.decodeList_restored`,
`Json.decodeDict_restored`). A record is read field by field from any object that has its fields
(`Json.record_restored`), and a field gives what was written for it, or what its absence stands for
if nothing was written (`Json.optional_restored`, `Json.defaulted_items`, `Json.defaulted_dict`).
-/

namespace Livery

namespace Json

variable {α : Type} {d : Decoder α} {write : α → Json}

/-! ## Values -/

theorem decodeText_restored (s : String) : decodeText (.str s) = some s := rfl

theorem decodeBool_restored (b : Bool) : decodeBool (.bool b) = some b := rfl

theorem decodeBelow_restored {bound n : Nat} (h : n < bound) :
    decodeBelow bound (ofNat n) = some n := by
  have hrange : (0 : Int) ≤ n ∧ (n : Int) < bound := by omega
  change (Number.int n).below? bound = some n
  rw [Number.below?, if_pos hrange, Int.toNat_natCast]

theorem lt_of_decodeBelow {bound n : Nat} {v : Json} (h : decodeBelow bound v = some n) :
    n < bound := by
  cases v with
  | num x =>
    cases x with
    | int i =>
      rw [decodeBelow, Number.below?, Option.ite_none_right_eq_some, Option.some.injEq] at h
      omega
    | float x => cases h
  | _ => cases h

theorem decodeList_restored {l : List α} (h : ∀ a ∈ l, d (write a) = some a) :
    decodeList d (.arr (l.map write)) = some l := by
  rw [decodeList, mapM_eq_some_iff, List.forall₂_map_left_iff]
  exact List.forall₂_same.mpr h

theorem decodeTexts_restored (l : List String) : decodeList decodeText (ofTextList l) = some l :=
  decodeList_restored fun s _ => decodeText_restored s

/-- Maps keep their order : it is that of the fields. -/
theorem decodeDict_restored {x : Dict α} (h : ∀ a ∈ x.values, d (write a) = some a) :
    decodeDict d (.obj (x.mapValues fun _ a => write a).entries) = some x := by
  have hpairs : (x.mapValues fun _ a => write a).entries.mapM
      (fun p => (d p.2).map fun a => (p.1, a)) = some x.entries := by
    rw [mapM_eq_some_iff, Dict.mapValues, List.forall₂_map_left_iff]
    refine List.forall₂_same.mpr fun p hp => ?_
    rw [h p.2 (List.mem_map_of_mem hp), Option.map_some]
  rw [decodeDict, hpairs, Option.map_some, Dict.ofList_entries]

/-! ## Fields -/

section

variable {fields : Entries Json} {key : String}

theorem required_restored {a : α} {v : Json} (hv : d v = some a)
    (hfield : fields.lookup key = some v) : required d fields key = some a := by
  rw [required, hfield, Option.bind_some, hv]

theorem required_text {s : String} (hfield : fields.lookup key = some (.str s)) :
    required decodeText fields key = some s :=
  required_restored (decodeText_restored s) hfield

theorem defaulted_restored {a value : α} {v : Json} (hv : d v = some a)
    (hfield : fields.lookup key = some v) : defaulted d value fields key = some a := by
  rw [defaulted, hfield]
  exact hv

/-- A field that may be absent is restored, for no value is written as `null`. -/
theorem optional_restored {x : Option α} (hnull : d .null = none)
    (hx : ∀ a, x = some a → d (write a) = some a)
    (hfield : fields.lookup key = x.map write) : optional d fields key = some x := by
  rw [optional, hfield]
  cases x with
  | none => rfl
  | some a =>
    have ha := hx a rfl
    rw [Option.map_some]
    split
    · rename_i h
      cases h
    · rename_i h
      rw [Option.some.inj h, hnull] at ha
      cases ha
    · rename_i v _ h
      rw [← Option.some.inj h, ha, Option.map_some]

theorem optional_text {x : Option String} (hfield : fields.lookup key = ofText? x) :
    optional decodeText fields key = some x := by
  have hwritten : fields.lookup key = x.map str := hfield
  exact optional_restored rfl (fun s _ => decodeText_restored s) hwritten

/-- A field that may be absent is restored if all that its decoder reads is. -/
theorem optional_readAgain {x : Option α} {before : Entries Json} (hnull : d .null = none)
    (hd : ∀ v a, d v = some a → d (write a) = some a) (hx : optional d before key = some x)
    (hfield : fields.lookup key = x.map write) : optional d fields key = some x := by
  refine optional_restored hnull (fun a ha => ?_) hfield
  rcases optional_cases hx with ⟨rfl, -⟩ | ⟨v, b, -, hb, rfl⟩
  · cases ha
  · cases ha
    exact hd v a hb

theorem defaulted_flag {b : Bool} (hfield : fields.lookup key = ifSet b) :
    defaulted decodeBool false fields key = some b := by
  rw [defaulted, hfield]
  cases b <;> rfl

theorem defaulted_items {l : List α} (hl : ∀ a ∈ l, d (write a) = some a)
    (hfield : fields.lookup key = unlessNil write l) :
    defaulted (decodeList d) [] fields key = some l := by
  rw [defaulted, hfield, unlessNil]
  cases l with
  | nil => rfl
  | cons a l => exact decodeList_restored hl

theorem defaulted_texts {l : List String} (hfield : fields.lookup key = unlessNil str l) :
    defaulted (decodeList decodeText) [] fields key = some l :=
  defaulted_items (fun s _ => decodeText_restored s) hfield

theorem defaulted_dict {x : Dict α} (hx : ∀ a ∈ x.values, d (write a) = some a)
    (hfield : fields.lookup key = unlessEmpty write x) :
    defaulted (decodeDict d) ∅ fields key = some x := by
  rw [defaulted, hfield, unlessEmpty]
  split
  · rename_i h
    split at h
    · rename_i hempty
      have hx : x = ∅ := Dict.ext_entries (List.isEmpty_iff.mp hempty)
      rw [hx]
    · cases h
  · rename_i v h
    split at h
    · cases h
    · rw [← Option.some.inj h]
      exact decodeDict_restored hx

theorem defaulted_textDict {x : Dict String} (hfield : fields.lookup key = unlessEmpty str x) :
    defaulted (decodeDict decodeText) ∅ fields key = some x :=
  defaulted_dict (fun s _ => decodeText_restored s) hfield

end

/-- The values of a map were read. -/
theorem exists_of_mem_values {v : Json} {x : Dict α} (h : decodeDict d v = some x) {a : α}
    (ha : a ∈ x.values) : ∃ w, d w = some a := by
  cases v with
  | obj fields =>
    rw [decodeDict, Option.map_eq_some_iff] at h
    obtain ⟨pairs, hpairs, rfl⟩ := h
    obtain ⟨p, hp, rfl⟩ := List.mem_map.mp ha
    have hmem : p ∈ pairs := Dict.mem_of_get?_ofList (Dict.mem_entries_iff.mp hp)
    obtain ⟨q, -, hq⟩ := exists_item_of_mem ((mapM_eq_some_iff _ _ _).mp hpairs) hmem
    obtain ⟨b, hb, rfl⟩ := Option.map_eq_some_iff.mp hq
    exact ⟨q.2, hb⟩
  | _ => cases h

/-- A map whose absence stands for the empty one is restored if all that is read for it is. -/
theorem exists_of_mem_defaulted {fields : Entries Json} {key : String} {x : Dict α}
    (h : defaulted (decodeDict d) ∅ fields key = some x) {a : α} (ha : a ∈ x.values) :
    ∃ w, d w = some a := by
  rcases defaulted_cases h with ⟨rfl, -⟩ | ⟨v, -, hv⟩
  · cases ha
  · exact exists_of_mem_values hv ha

/-- The items of a list whose absence stands for the empty one were read from the items of an
array. -/
theorem exists_of_mem_items {fields : Entries Json} {key : String} {l : List α}
    (h : defaulted (decodeList d) [] fields key = some l) {a : α} (ha : a ∈ l) :
    ∃ items, fields.lookup key = some (.arr items) ∧ ∃ v ∈ items, d v = some a := by
  rcases defaulted_cases h with ⟨rfl, -⟩ | ⟨v, hv, hl⟩
  · cases ha
  · obtain ⟨items, rfl, hitems⟩ := decodeList_eq_some hl
    exact ⟨items, hv, exists_item_of_mem hitems ha⟩

/-! ## Records -/

/-- A record is restored if it is restored from any object that has its fields. -/
theorem record_restored {l : Entries (Option Json)} {a : α} (hl : l.keys.Nodup)
    (h : ∀ fields : Entries Json, (∀ key w, l.lookup key = some w → fields.lookup key = w) →
      d (.obj fields) = some a) : d (record l) = some a := by
  refine h _ fun key w hw => ?_
  rw [Entries.lookup_filterMap (fun _ v => v) key hl, hw, Option.bind_some]

/-- The same for a record with its kind behind the other fields. -/
theorem record_kind_restored {l : Entries (Option Json)} {kind : String} {a : α}
    (hl : l.keys.Nodup) (hkind : "kind" ∉ l.keys)
    (h : ∀ fields : Entries Json, fields.lookup "kind" = some (.str kind) →
      (∀ key w, l.lookup key = some w → fields.lookup key = w) → d (.obj fields) = some a) :
    d (record (l ++ [("kind", some (.str kind))])) = some a := by
  have hkeys : Entries.keys (l ++ [("kind", some (.str kind))]) = l.keys ++ ["kind"] := by
    rw [Entries.keys, List.map_append]
    rfl
  have hnone : l.lookup "kind" = none := Entries.lookup_eq_none_iff.mpr hkind
  refine record_restored ?_ fun fields hfields => h fields (hfields "kind" _ ?_) ?_
  · rw [hkeys]
    exact List.nodup_append.mpr ⟨hl, by simp, fun x hx y hy hxy =>
      hkind (List.mem_singleton.mp hy ▸ hxy ▸ hx)⟩
  · rw [List.lookup_append, hnone]
    rfl
  · intro key w hw
    exact hfields key w (by rw [List.lookup_append, hw]; rfl)

end Json

end Livery
