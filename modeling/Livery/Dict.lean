/-!
# Ordered maps

`Dict α` maps texts to values and remembers the order in which its keys were first set. Setting a
key that is present overwrites its value in place (`put`), removing a key keeps the order of the
others (`drop`), and no key occurs twice (`Dict.nodup`). Declaration order is visible in everything
a theme or a layout produces, so every keyed table of this library is a `Dict`.

`keys_put` and `lookup_put` say what setting a key does to the keys and to every look-up, `keys_drop`
and `lookup_drop` what removing one does, and `Dict.keys_extend` and `Dict.get?_extend` say it of
setting one pair after another. The value that a key had before can be had in the same pass
(`Dict.getThenInsert?`, `Dict.getThenErase?`).
-/

namespace Livery

/-- A list of key and value pairs, in order. -/
abbrev Entries (α : Type) := List (String × α)

namespace Entries

variable {α β : Type}

/-- The keys, in order. -/
def keys (l : Entries α) : List String := l.map Prod.fst

/-- Overwrites the value of a key that is present, and appends the pair otherwise. -/
def put (key : String) (value : α) : Entries α → Entries α
  | [] => [(key, value)]
  | (k, v) :: rest => if k = key then (k, value) :: rest else (k, v) :: put key value rest

/-- Removes the first pair with this key. -/
def drop (key : String) : Entries α → Entries α
  | [] => []
  | (k, v) :: rest => if k = key then rest else (k, v) :: drop key rest

theorem keys_put (key : String) (value : α) (l : Entries α) :
    (l.put key value).keys = if key ∈ l.keys then l.keys else l.keys ++ [key] := by
  induction l with
  | nil => simp [put, keys]
  | cons p rest ih =>
    obtain ⟨k, v⟩ := p
    by_cases h : k = key
    · simp [put, keys, h]
    · have h' : ¬ key = k := fun e => h e.symm
      simp only [keys, put, h, if_false, List.map_cons, List.mem_cons, h', false_or] at ih ⊢
      rw [ih]
      by_cases hm : key ∈ List.map Prod.fst rest <;> simp [hm]

theorem lookup_put (key other : String) (value : α) (l : Entries α) :
    (l.put key value).lookup other = if other = key then some value else l.lookup other := by
  induction l with
  | nil => grind [put]
  | cons p rest ih =>
    obtain ⟨k, v⟩ := p
    by_cases h : k = key <;> by_cases h' : other = k <;> grind [put]

/-- A new key comes last. -/
theorem put_of_not_mem {key : String} (value : α) :
    ∀ {l : Entries α}, key ∉ l.keys → l.put key value = l ++ [(key, value)]
  | [], _ => rfl
  | (k, v) :: rest, h => by
    obtain ⟨hk, hrest⟩ := List.ne_and_not_mem_of_not_mem_cons h
    rw [put, if_neg (Ne.symm hk), put_of_not_mem value hrest, List.cons_append]

/-- A key has a value if it is among the keys. -/
theorem isSome_lookup (key : String) : ∀ l : Entries α, (l.lookup key).isSome = l.keys.contains key
  | [] => rfl
  | (k, v) :: rest => by
    rw [List.lookup_cons, keys, List.map_cons, List.contains_cons]
    cases key == k with
    | true => rfl
    | false => exact isSome_lookup key rest

theorem lookup_eq_none_iff {l : Entries α} {key : String} :
    l.lookup key = none ↔ key ∉ l.keys := by
  rw [← Option.not_isSome_iff_eq_none, isSome_lookup, List.contains_iff_mem]

theorem mem_of_lookup {l : Entries α} {key : String} {value : α}
    (h : l.lookup key = some value) : (key, value) ∈ l := by
  obtain ⟨before, after, rfl, -⟩ := List.lookup_eq_some_iff.mp h
  simp

/-- Among distinct keys, the value of a key is the one that a pair gives it. -/
theorem lookup_eq_some_iff_mem {l : Entries α} (h : l.keys.Nodup) {key : String} {value : α} :
    l.lookup key = some value ↔ (key, value) ∈ l := by
  refine ⟨mem_of_lookup, fun hmem => ?_⟩
  obtain ⟨before, after, rfl⟩ := List.append_of_mem hmem
  rw [keys, List.map_append, List.map_cons, List.nodup_append] at h
  refine List.lookup_eq_some_iff.mpr ⟨before, after, rfl, fun p hp => ?_⟩
  have hne := h.2.2 p.1 (List.mem_map_of_mem hp) key List.mem_cons_self
  simpa using Ne.symm hne

theorem lookup_reverse {l : Entries α} (h : l.keys.Nodup) (key : String) :
    List.lookup key l.reverse = l.lookup key := by
  have hreverse : keys l.reverse = l.keys.reverse := List.map_reverse
  have h' : (keys l.reverse).Nodup := by
    rw [hreverse]
    exact List.pairwise_reverse.mpr (h.imp Ne.symm)
  ext value
  rw [lookup_eq_some_iff_mem h', lookup_eq_some_iff_mem h, List.mem_reverse]

theorem keys_filterMap_sublist (f : String → α → Option β) : ∀ l : Entries α,
    (keys (l.filterMap fun p => (f p.1 p.2).map fun w => (p.1, w))).Sublist l.keys
  | [] => List.Sublist.refl _
  | (k, v) :: l => by
    have ih := keys_filterMap_sublist f l
    rw [List.filterMap_cons]
    cases f k v with
    | none => exact ih.cons k
    | some w => exact ih.cons_cons k

/-- Reading what is left of distinct keys after each value was changed or left out. -/
theorem lookup_filterMap (f : String → α → Option β) (key : String) {l : Entries α}
    (h : l.keys.Nodup) :
    (l.filterMap fun p => (f p.1 p.2).map fun w => (p.1, w)).lookup key =
      (l.lookup key).bind (f key) := by
  have hkeys := (keys_filterMap_sublist f l).nodup h
  ext w
  rw [lookup_eq_some_iff_mem hkeys, List.mem_filterMap, Option.bind_eq_some_iff]
  constructor
  · rintro ⟨⟨k, v⟩, hmem, hp⟩
    obtain ⟨w', hw, heq⟩ := Option.map_eq_some_iff.mp hp
    cases heq
    exact ⟨v, (lookup_eq_some_iff_mem h).mpr hmem, hw⟩
  · rintro ⟨v, hv, hw⟩
    exact ⟨(key, v), mem_of_lookup hv, by rw [hw, Option.map_some]⟩

theorem nodup_put {l : Entries α} (h : l.keys.Nodup) (key : String) (value : α) :
    (l.put key value).keys.Nodup := by
  rw [keys_put]
  split
  · exact h
  · rename_i hk
    rw [List.nodup_append]
    refine ⟨h, by simp, ?_⟩
    intro a ha b hb e
    simp only [List.mem_singleton] at hb
    exact hk (hb ▸ e ▸ ha)

theorem keys_drop (key : String) (l : Entries α) : (l.drop key).keys = l.keys.erase key := by
  induction l with
  | nil => rfl
  | cons p rest ih =>
    obtain ⟨k, v⟩ := p
    have hkeys : keys ((k, v) :: rest) = k :: keys rest := rfl
    by_cases h : k = key
    · rw [drop, if_pos h, hkeys, h, List.erase_cons_head]
    · rw [drop, if_neg h, hkeys, List.erase_cons_tail (by simpa using h), ← ih]
      rfl

/-- Among distinct keys, the others keep their values when one is removed. -/
theorem lookup_drop (key other : String) : ∀ {l : Entries α}, l.keys.Nodup →
    (l.drop key).lookup other = if other = key then none else l.lookup other
  | [], _ => by simp [drop]
  | (k, v) :: rest, h => by
    obtain ⟨hk, hrest⟩ := List.nodup_cons.mp h
    by_cases hkey : k = key
    · have hnone : rest.lookup k = none := lookup_eq_none_iff.mpr hk
      grind [drop]
    · have ih := lookup_drop key other hrest
      grind [drop]

theorem keys_drop_sublist (key : String) (l : Entries α) : (l.drop key).keys.Sublist l.keys := by
  rw [keys_drop]
  exact List.erase_sublist

theorem nodup_drop {l : Entries α} (h : l.keys.Nodup) (key : String) :
    (l.drop key).keys.Nodup :=
  List.Sublist.nodup (keys_drop_sublist key l) h

/-- Overwrites the value of a key that is present, and appends the pair otherwise; gives the value
that was there. -/
def lookupThenPut (key : String) (value : α) : Entries α → Option α × Entries α
  | [] => (none, [(key, value)])
  | (k, v) :: rest =>
    if k = key then (some v, (k, value) :: rest)
    else
      let (old, rest) := lookupThenPut key value rest
      (old, (k, v) :: rest)

/-- Removes the first pair with this key, and gives its value. -/
def lookupThenDrop (key : String) : Entries α → Option α × Entries α
  | [] => (none, [])
  | (k, v) :: rest =>
    if k = key then (some v, rest)
    else
      let (old, rest) := lookupThenDrop key rest
      (old, (k, v) :: rest)

theorem lookupThenPut_eq (key : String) (value : α) (l : Entries α) :
    l.lookupThenPut key value = (l.lookup key, l.put key value) := by
  induction l with
  | nil => rfl
  | cons p rest ih =>
    obtain ⟨k, v⟩ := p
    by_cases h : k = key <;> grind [lookupThenPut, put]

theorem lookupThenDrop_eq (key : String) (l : Entries α) :
    l.lookupThenDrop key = (l.lookup key, l.drop key) := by
  induction l with
  | nil => rfl
  | cons p rest ih =>
    obtain ⟨k, v⟩ := p
    by_cases h : k = key <;> grind [lookupThenDrop, drop]

theorem nodup_lookupThenPut {l : Entries α} (h : l.keys.Nodup) (key : String) (value : α) :
    (l.lookupThenPut key value).2.keys.Nodup := by
  rw [lookupThenPut_eq]
  exact nodup_put h key value

theorem nodup_lookupThenDrop {l : Entries α} (h : l.keys.Nodup) (key : String) :
    (l.lookupThenDrop key).2.keys.Nodup := by
  rw [lookupThenDrop_eq]
  exact nodup_drop h key

theorem keys_mapValues (f : String → α → β) (l : Entries α) :
    keys (l.map fun p => (p.1, f p.1 p.2)) = l.keys := by
  simp [keys, List.map_map, Function.comp_def]

/-- Replaces every value by what `f` makes of it, if `f` refuses none. -/
def traverse (f : α → Option β) : Entries α → Option (Entries β)
  | [] => some []
  | (k, v) :: rest => (f v).bind fun w => (traverse f rest).map fun ws => (k, w) :: ws

theorem keys_traverse {f : α → Option β} {l : Entries α} {m : Entries β}
    (h : l.traverse f = some m) : m.keys = l.keys := by
  induction l generalizing m with
  | nil =>
    simp only [traverse, Option.some.injEq] at h
    exact h ▸ rfl
  | cons p rest ih =>
    obtain ⟨k, v⟩ := p
    obtain ⟨w, -, hw⟩ := Option.bind_eq_some_iff.1 h
    obtain ⟨ws, hws, rfl⟩ := Option.map_eq_some_iff.1 hw
    simpa [keys] using ih hws

theorem lookup_traverse {f : α → Option β} (key : String) {l : Entries α} {m : Entries β}
    (h : l.traverse f = some m) : (m.lookup key).map some = (l.lookup key).map f := by
  induction l generalizing m with
  | nil =>
    simp only [traverse, Option.some.injEq] at h
    exact h ▸ rfl
  | cons p rest ih =>
    obtain ⟨k, v⟩ := p
    obtain ⟨w, hw, hrest⟩ := Option.bind_eq_some_iff.1 h
    obtain ⟨ws, hws, rfl⟩ := Option.map_eq_some_iff.1 hrest
    rw [List.lookup_cons, List.lookup_cons]
    split
    · rw [Option.map_some, Option.map_some, hw]
    · exact ih hws

theorem isSome_traverse {f : α → Option β} {l : Entries α}
    (h : ∀ p ∈ l, (f p.2).isSome = true) : (l.traverse f).isSome = true := by
  induction l with
  | nil => rfl
  | cons p rest ih =>
    obtain ⟨k, v⟩ := p
    obtain ⟨w, hw⟩ := Option.isSome_iff_exists.1 (h (k, v) List.mem_cons_self)
    have hrest := ih fun p hp => h p (List.mem_cons_of_mem _ hp)
    simpa [traverse, hw] using hrest

end Entries

/-- An ordered map from texts, without repeated keys. -/
structure Dict (α : Type) where
  /-- The pairs, in the order in which their keys were first set. -/
  entries : Entries α := []
  /-- No key occurs twice. -/
  nodup : entries.keys.Nodup := by simp [Entries.keys]

namespace Dict

variable {α β : Type}

instance : Inhabited (Dict α) := ⟨{}⟩

instance : EmptyCollection (Dict α) := ⟨{}⟩

theorem ext_entries {d e : Dict α} (h : d.entries = e.entries) : d = e := by
  cases d; cases e; cases h; rfl

instance [DecidableEq α] : DecidableEq (Dict α) := fun d e =>
  if h : d.entries = e.entries then isTrue (ext_entries h)
  else isFalse fun hde => h (hde ▸ rfl)

/-- The keys, in order. -/
def keys (d : Dict α) : List String := d.entries.keys

/-- The values, in the order of their keys. -/
def values (d : Dict α) : List α := d.entries.map Prod.snd

/-- The number of keys. -/
def size (d : Dict α) : Nat := d.entries.length

/-- Whether there is no key. -/
def isEmpty (d : Dict α) : Bool := d.entries.isEmpty

/-- The value of a key. -/
def get? (d : Dict α) (key : String) : Option α := d.entries.lookup key

/-- Whether a key is present. -/
def contains (d : Dict α) (key : String) : Bool := (d.get? key).isSome

/-- Sets a key: a key that is present keeps its place, a new one comes last. -/
def insert (d : Dict α) (key : String) (value : α) : Dict α :=
  ⟨d.entries.put key value, Entries.nodup_put d.nodup key value⟩

/-- Removes a key and keeps the order of the others. -/
def erase (d : Dict α) (key : String) : Dict α :=
  ⟨d.entries.drop key, Entries.nodup_drop d.nodup key⟩

/-- Sets a key, and gives the value that it had before. -/
def getThenInsert? (d : Dict α) (key : String) (value : α) : Option α × Dict α :=
  let r := d.entries.lookupThenPut key value
  (r.1, ⟨r.2, Entries.nodup_lookupThenPut d.nodup key value⟩)

/-- Removes a key, and gives the value that it had before. -/
def getThenErase? (d : Dict α) (key : String) : Option α × Dict α :=
  let r := d.entries.lookupThenDrop key
  (r.1, ⟨r.2, Entries.nodup_lookupThenDrop d.nodup key⟩)

/-- Sets the pairs one after another. -/
def extend (d : Dict α) (pairs : Entries α) : Dict α :=
  pairs.foldl (fun d p => d.insert p.1 p.2) d

/-- The map that setting the pairs one after another gives. -/
def ofList (pairs : Entries α) : Dict α := (∅ : Dict α).extend pairs

/-- Changes every value and keeps keys and order. -/
def mapValues (f : String → α → β) (d : Dict α) : Dict β :=
  ⟨d.entries.map fun p => (p.1, f p.1 p.2), by rw [Entries.keys_mapValues]; exact d.nodup⟩

/-- Replaces every value by what `f` makes of it, if `f` refuses none. -/
def traverse (f : α → Option β) (d : Dict α) : Option (Dict β) :=
  match h : d.entries.traverse f with
  | some entries => some ⟨entries, (Entries.keys_traverse h).symm ▸ d.nodup⟩
  | none => none

theorem isSome_traverse {f : α → Option β} {d : Dict α}
    (h : ∀ p ∈ d.entries, (f p.2).isSome = true) : (d.traverse f).isSome = true := by
  have hsome := Entries.isSome_traverse h
  unfold traverse
  split
  · rfl
  · rename_i hnone
    rw [hnone] at hsome
    cases hsome

/-- Every key keeps its place, with what `f` makes of its value. -/
theorem get?_traverse {f : α → Option β} {d : Dict α} {m : Dict β} (h : d.traverse f = some m)
    (key : String) : (m.get? key).map some = (d.get? key).map f := by
  unfold traverse at h
  split at h
  · rename_i entries hentries
    obtain rfl := Option.some.inj h
    exact Entries.lookup_traverse key hentries
  · cases h

theorem contains_keys (d : Dict α) (key : String) : d.keys.contains key = d.contains key :=
  (Entries.isSome_lookup key d.entries).symm

theorem mem_keys_iff {d : Dict α} {key : String} :
    key ∈ d.keys ↔ ∃ value, d.get? key = some value := by
  rw [← Option.isSome_iff_exists, ← contains, ← contains_keys, List.contains_iff_mem]

@[simp] theorem entries_insert (d : Dict α) (key : String) (value : α) :
    (d.insert key value).entries = d.entries.put key value := rfl

theorem keys_insert (d : Dict α) (key : String) (value : α) :
    (d.insert key value).keys = if key ∈ d.keys then d.keys else d.keys ++ [key] :=
  Entries.keys_put key value d.entries

theorem get?_insert (d : Dict α) (key other : String) (value : α) :
    (d.insert key value).get? other = if other = key then some value else d.get? other :=
  Entries.lookup_put key other value d.entries

theorem keys_erase (d : Dict α) (key : String) : (d.erase key).keys = d.keys.erase key :=
  Entries.keys_drop key d.entries

theorem get?_erase (d : Dict α) (key other : String) :
    (d.erase key).get? other = if other = key then none else d.get? other :=
  Entries.lookup_drop key other d.nodup

theorem getThenInsert?_eq (d : Dict α) (key : String) (value : α) :
    d.getThenInsert? key value = (d.get? key, d.insert key value) := by
  have h := Entries.lookupThenPut_eq key value d.entries
  exact Prod.ext (congrArg Prod.fst h :) (ext_entries (congrArg Prod.snd h :))

theorem getThenErase?_eq (d : Dict α) (key : String) :
    d.getThenErase? key = (d.get? key, d.erase key) := by
  have h := Entries.lookupThenDrop_eq key d.entries
  exact Prod.ext (congrArg Prod.fst h :) (ext_entries (congrArg Prod.snd h :))

/-- The pairs are the keys with their values. -/
theorem mem_entries_iff {d : Dict α} {key : String} {value : α} :
    (key, value) ∈ d.entries ↔ d.get? key = some value :=
  (Entries.lookup_eq_some_iff_mem d.nodup).symm

theorem mem_entries_of_get? {d : Dict α} {key : String} {value : α} (h : d.get? key = some value) :
    (key, value) ∈ d.entries :=
  mem_entries_iff.mpr h

theorem mem_values_of_get? {d : Dict α} {key : String} {value : α} (h : d.get? key = some value) :
    value ∈ d.values :=
  List.mem_map.2 ⟨(key, value), mem_entries_of_get? h, rfl⟩

theorem get?_mapValues (f : String → α → β) (d : Dict α) (key : String) :
    (d.mapValues f).get? key = (d.get? key).map (f key) := by
  obtain ⟨entries, hkeys⟩ := d
  simp only [get?, mapValues]
  clear hkeys
  induction entries with
  | nil => rfl
  | cons p rest ih =>
    rw [List.map_cons, List.lookup_cons, List.lookup_cons]
    cases hkey : key == p.1 with
    | true => rw [Option.map_some, eq_of_beq hkey]
    | false => exact ih

theorem contains_insert (d : Dict α) (key other : String) (value : α) :
    (d.insert key value).contains other = (decide (other = key) || d.contains other) := by
  rw [contains, contains, get?_insert]
  by_cases h : other = key <;> simp [h]

theorem extend_append (d : Dict α) (l l' : Entries α) :
    d.extend (l ++ l') = (d.extend l).extend l' := by
  simp [extend, List.foldl_append]

/-- Setting pairs one after another appends the new keys in the order in which they are first
set. -/
theorem keys_extend : ∀ (l : Entries α) (d : Dict α),
    (d.extend l).keys = d.keys ++ (l.keys.filter (· ∉ d.keys)).eraseDups
  | [], d => (List.append_nil _).symm
  | (k, v) :: l, d => by
    have hstep : d.extend ((k, v) :: l) = (d.insert k v).extend l := rfl
    have hkeys : Entries.keys ((k, v) :: l) = k :: Entries.keys l := rfl
    rw [hstep, keys_extend l, keys_insert, hkeys]
    by_cases hk : k ∈ d.keys
    · rw [if_pos hk, List.filter_cons_of_neg (by simpa using hk)]
    · have hrest : (Entries.keys l).filter (· ∉ d.keys ++ [k]) =
          ((Entries.keys l).filter (· ∉ d.keys)).filter fun key => !key == k := by
        rw [List.filter_filter]
        refine List.filter_congr fun key _ => ?_
        by_cases hkey : key = k <;> simp [hkey]
      rw [if_neg hk, List.filter_cons_of_pos (by simpa using hk), List.eraseDups_cons, hrest,
        List.append_assoc, List.singleton_append]

/-- The last pair that sets a key decides on its value. -/
theorem get?_extend (key : String) : ∀ (l : Entries α) (d : Dict α),
    (d.extend l).get? key = (l.reverse.lookup key).or (d.get? key)
  | [], _ => rfl
  | (k, v) :: l, d => by
    have hstep : d.extend ((k, v) :: l) = (d.insert k v).extend l := rfl
    rw [hstep, get?_extend key l, get?_insert, List.reverse_cons, List.lookup_append,
      Option.or_assoc]
    by_cases hk : key = k
    · rw [if_pos hk, hk, List.lookup_cons_self, Option.some_or]
    · rw [if_neg hk, List.lookup_cons, beq_false_of_ne hk]
      rfl

/-- A map set over another one hides it where both have a value. -/
theorem get?_extend_entries (d d' : Dict α) (key : String) :
    (d.extend d'.entries).get? key = (d'.get? key).or (d.get? key) := by
  rw [get?_extend, Entries.lookup_reverse d'.nodup]
  rfl

/-- A value that is there after setting pairs was set, or there before. -/
theorem mem_of_get?_extend {key : String} {value : α} {l : Entries α} {d : Dict α}
    (h : (d.extend l).get? key = some value) : (key, value) ∈ l ∨ d.get? key = some value := by
  rw [get?_extend, Option.or_eq_some_iff] at h
  exact h.imp (fun hl => List.mem_reverse.mp (Entries.mem_of_lookup hl)) And.right

/-- Setting new keys appends the pairs. -/
theorem entries_extend : ∀ {l : Entries α} {d : Dict α}, (d.entries ++ l).keys.Nodup →
    (d.extend l).entries = d.entries ++ l
  | [], d, _ => (List.append_nil _).symm
  | (k, v) :: l, d, h => by
    have hk : k ∉ d.entries.keys := by
      rw [Entries.keys, List.map_append, List.nodup_append] at h
      exact fun hmem => h.2.2 k hmem k List.mem_cons_self rfl
    have hput : (d.insert k v).entries = d.entries ++ [(k, v)] :=
      Entries.put_of_not_mem v hk
    have hrest := entries_extend (l := l) (d := d.insert k v)
    rw [hput, List.append_assoc, List.singleton_append] at hrest
    exact hrest h

theorem entries_ofList {l : Entries α} (h : l.keys.Nodup) : (ofList l).entries = l :=
  entries_extend h

theorem ofList_entries (d : Dict α) : ofList d.entries = d := ext_entries (entries_ofList d.nodup)

/-- What `ofList` holds is in the list. -/
theorem mem_of_get?_ofList {l : Entries α} {key : String} {value : α}
    (h : (ofList l).get? key = some value) : (key, value) ∈ l := by
  rcases mem_of_get?_extend h with hl | hd
  · exact hl
  · cases hd

end Dict

end Livery
