import Livery.Proofs.AttributeOrder

/-!
# Histories of maps

A run of operations on a map leaves a history of writes and removals (`Dict.history`). The map that
the run ends with can be read off the history alone (`Dict.Reflects`) : a key has the value that was
last written to it since its last removal (`Holds`), and the keys stand in the order in which they
entered (`Entered`), where a key enters with its first write since its last removal. So overwriting
does not move a key, and removing does not move the others. The attributes of an element are such a
map.

What a history says changes with one more event (`holds_append_iff`, `entered_append_iff`) as the
map does (`get?_apply_iff`, `mem_keys_apply_iff`, `keys_apply`). `Reflects.step` puts the two
together for one event, and `Reflects.run` for all of them.
-/

namespace Livery

/-- A list with one more element at its end is cut at that element or in front of it. -/
theorem append_singleton_eq_iff {α : Type} {l before after : List α} {x y : α} :
    l ++ [x] = before ++ y :: after ↔
      (l = before ∧ x = y ∧ after = []) ∨
        ∃ rest, after = rest ++ [x] ∧ l = before ++ y :: rest := by
  constructor
  · intro h
    rcases List.eq_nil_or_concat after with rfl | ⟨rest, z, rfl⟩
    · obtain ⟨hl, hx⟩ := List.append_inj' h rfl
      exact .inl ⟨hl, (List.cons.inj hx).1, rfl⟩
    · have h' : l ++ [x] = (before ++ y :: rest) ++ [z] := by simpa using h
      obtain ⟨hl, hx⟩ := List.append_inj' h' rfl
      obtain rfl := (List.cons.inj hx).1
      exact .inr ⟨rest, by simp, hl⟩
  · rintro (⟨rfl, rfl, rfl⟩ | ⟨rest, rfl, rfl⟩)
    · rfl
    · simp

namespace Dict

variable {α : Type}

/-! ## Operations and events -/

/-- An operation on a map. -/
inductive Op (α : Type)
  /-- Sets a key, and answers what it had before. -/
  | insert (key : String) (value : α)
  /-- Sets a key, and goes on with the map. -/
  | set (key : String) (value : α)
  /-- Removes a key, and answers what it had. -/
  | remove (key : String)
  /-- Sets pairs, one after another. -/
  | extend (pairs : Entries α)
  /-- Goes on with a map of its own that is collected from pairs. -/
  | collect (pairs : Entries α)

/-- The answer of an operation, and the map behind it. -/
def Op.perform (d : Dict α) : Op α → Option α × Dict α
  | .insert key value => d.getThenInsert? key value
  | .set key value => (none, d.insert key value)
  | .remove key => d.getThenErase? key
  | .extend pairs => (none, d.extend pairs)
  | .collect pairs => (none, ofList pairs)

/-- The map behind a run of operations on the empty map. -/
def after (ops : List (Op α)) : Dict α := ops.foldl (fun d op => (op.perform d).2) ∅

/-- What happens to the keys of a map. -/
inductive Event (α : Type)
  | write (key : String) (value : α)
  | remove (key : String)
  /-- All keys are removed. -/
  | clear

/-- The event writes the key. -/
def Event.Writes (key : String) (e : Event α) : Prop := ∃ value, e = .write key value

/-- The event removes the key. -/
def Event.Removes (key : String) (e : Event α) : Prop := e = .remove key ∨ e = .clear

theorem Event.Writes.not_removes {key : String} {e : Event α} (h : e.Writes key) :
    ¬ e.Removes key := by
  obtain ⟨value, rfl⟩ := h
  rintro (h | h) <;> cases h

/-- The events of an operation. -/
def Op.events : Op α → List (Event α)
  | .insert key value => [.write key value]
  | .set key value => [.write key value]
  | .remove key => [.remove key]
  | .extend pairs => pairs.map fun p => .write p.1 p.2
  | .collect pairs => .clear :: pairs.map fun p => .write p.1 p.2

/-- The events of a run. -/
def history (ops : List (Op α)) : List (Event α) := ops.flatMap Op.events

/-! ## What a history says -/

variable {l : List (Event α)} {key : String} {e : Event α} {d : Dict α}

/-- The value was written to the key, and nothing happened to the key since. -/
def Holds (l : List (Event α)) (key : String) (value : α) : Prop :=
  ∃ before after, l = before ++ .write key value :: after ∧
    ∀ e ∈ after, ¬ e.Writes key ∧ ¬ e.Removes key

/-- Every write of the key was followed by its removal. -/
def Absent (l : List (Event α)) (key : String) : Prop :=
  ∀ before value after, l = before ++ .write key value :: after → ∃ e ∈ after, e.Removes key

/-- The key entered with the write at a place of the history : it was absent before, and it was not
removed since. -/
def Entered (l : List (Event α)) (key : String) (place : ℕ) : Prop :=
  ∃ before value after, l = before ++ .write key value :: after ∧ before.length = place ∧
    Absent before key ∧ ∀ e ∈ after, ¬ e.Removes key

/-- A map is what a history says : keys have the values that were last written to them, and stand in
the order in which they entered. -/
structure Reflects (l : List (Event α)) (d : Dict α) : Prop where
  nodup : d.keys.Nodup
  get?_iff : ∀ key value, d.get? key = some value ↔ Holds l key value
  mem_iff : ∀ key, key ∈ d.keys ↔ ∃ place, Entered l key place
  ordered : d.keys.Pairwise fun key other =>
    ∀ i j, Entered l key i → Entered l other j → i < j

theorem holds_append_iff {value : α} :
    Holds (l ++ [e]) key value ↔
      e = .write key value ∨ (Holds l key value ∧ ¬ e.Writes key ∧ ¬ e.Removes key) := by
  constructor
  · rintro ⟨before, after, h, hafter⟩
    rcases append_singleton_eq_iff.mp h with ⟨-, he, -⟩ | ⟨rest, rfl, hl⟩
    · exact .inl he
    · obtain ⟨hrest, he⟩ := List.forall_mem_append.mp hafter
      exact .inr ⟨⟨before, rest, hl, hrest⟩, he e List.mem_cons_self⟩
  · rintro (rfl | ⟨⟨before, after, rfl, hafter⟩, he⟩)
    · exact ⟨l, [], rfl, List.forall_mem_nil _⟩
    · exact ⟨before, after ++ [e], by simp,
        List.forall_mem_append.mpr ⟨hafter, List.forall_mem_singleton.mpr he⟩⟩

theorem absent_append (h : e.Removes key ∨ (Absent l key ∧ ¬ e.Writes key)) :
    Absent (l ++ [e]) key := by
  intro before value after heq
  rcases append_singleton_eq_iff.mp heq with ⟨-, rfl, -⟩ | ⟨rest, rfl, hl⟩
  · have hwrites : (Event.write key value).Writes key := ⟨value, rfl⟩
    rcases h with h | h
    · exact absurd h hwrites.not_removes
    · exact absurd hwrites h.2
  · rcases h with h | h
    · exact ⟨e, by simp, h⟩
    · obtain ⟨x, hx, hremoves⟩ := h.1 before value rest hl
      exact ⟨x, List.mem_append_left _ hx, hremoves⟩

theorem entered_append_iff {place : ℕ} :
    Entered (l ++ [e]) key place ↔
      (Entered l key place ∧ ¬ e.Removes key) ∨
        (place = l.length ∧ e.Writes key ∧ Absent l key) := by
  constructor
  · rintro ⟨before, value, after, h, hplace, habsent, hafter⟩
    rcases append_singleton_eq_iff.mp h with ⟨rfl, rfl, -⟩ | ⟨rest, rfl, hl⟩
    · exact .inr ⟨hplace.symm, ⟨value, rfl⟩, habsent⟩
    · obtain ⟨hrest, he⟩ := List.forall_mem_append.mp hafter
      exact .inl ⟨⟨before, value, rest, hl, hplace, habsent, hrest⟩, he e List.mem_cons_self⟩
  · rintro (⟨⟨before, value, after, rfl, hplace, habsent, hafter⟩, he⟩ |
      ⟨rfl, ⟨value, rfl⟩, habsent⟩)
    · exact ⟨before, value, after ++ [e], by simp, hplace, habsent,
        List.forall_mem_append.mpr ⟨hafter, List.forall_mem_singleton.mpr he⟩⟩
    · exact ⟨l, value, [], rfl, rfl, habsent, List.forall_mem_nil _⟩

theorem Entered.lt_length {place : ℕ} (h : Entered l key place) : place < l.length := by
  obtain ⟨before, value, after, rfl, rfl, -⟩ := h
  simp

theorem Entered.not_absent {place : ℕ} (h : Entered l key place) : ¬ Absent l key := by
  obtain ⟨before, value, after, rfl, -, -, hafter⟩ := h
  intro habsent
  obtain ⟨e, he, hremoves⟩ := habsent before value after rfl
  exact hafter e he hremoves

/-- A key has entered or is absent. -/
theorem exists_entered_of_not_absent {l : List (Event α)} :
    ¬ Absent l key → ∃ place, Entered l key place := by
  induction l using List.reverseRecOn with
  | nil => exact fun h => absurd (fun before value after heq => by simp at heq) h
  | append_singleton l e ih =>
    intro h
    have hremoves : ¬ e.Removes key := fun he => h (absent_append (.inl he))
    by_cases habsent : Absent l key
    · have hwrites : e.Writes key := by
        by_contra hwrites
        exact h (absent_append (.inr ⟨habsent, hwrites⟩))
      exact ⟨l.length, entered_append_iff.mpr (.inr ⟨rfl, hwrites, habsent⟩)⟩
    · obtain ⟨place, hplace⟩ := ih habsent
      exact ⟨place, entered_append_iff.mpr (.inl ⟨hplace, hremoves⟩)⟩

theorem exists_entered_append_iff :
    (∃ place, Entered (l ++ [e]) key place) ↔
      e.Writes key ∨ ((∃ place, Entered l key place) ∧ ¬ e.Removes key) := by
  constructor
  · rintro ⟨place, hplace⟩
    rcases entered_append_iff.mp hplace with ⟨hplace, hremoves⟩ | ⟨-, hwrites, -⟩
    · exact .inr ⟨⟨place, hplace⟩, hremoves⟩
    · exact .inl hwrites
  · rintro (hwrites | ⟨⟨place, hplace⟩, hremoves⟩)
    · by_cases habsent : Absent l key
      · exact ⟨l.length, entered_append_iff.mpr (.inr ⟨rfl, hwrites, habsent⟩)⟩
      · obtain ⟨place, hplace⟩ := exists_entered_of_not_absent habsent
        exact ⟨place, entered_append_iff.mpr (.inl ⟨hplace, hwrites.not_removes⟩)⟩
    · exact ⟨place, entered_append_iff.mpr (.inl ⟨hplace, hremoves⟩)⟩

/-- A key that has entered does not enter again. -/
theorem Entered.of_append {i place : ℕ} (h : Entered (l ++ [e]) key i)
    (hplace : Entered l key place) : Entered l key i := by
  rcases entered_append_iff.mp h with h | h
  · exact h.1
  · exact absurd h.2.2 hplace.not_absent

/-! ## One event -/

/-- The map behind an event. -/
def Event.apply (d : Dict α) : Event α → Dict α
  | .write key value => d.insert key value
  | .remove key => d.erase key
  | .clear => ∅

theorem get?_apply_iff {value : α} :
    (e.apply d).get? key = some value ↔
      e = .write key value ∨ (d.get? key = some value ∧ ¬ e.Writes key ∧ ¬ e.Removes key) := by
  cases e with
  | write k v =>
    rw [Event.apply, get?_insert]
    by_cases h : key = k
    · simp [Event.Writes, h]
    · simp [Event.Writes, Event.Removes, h, Ne.symm h]
  | remove k =>
    rw [Event.apply, get?_erase]
    by_cases h : key = k
    · simp [Event.Removes, h]
    · simp [Event.Writes, Event.Removes, h, Ne.symm h]
  | clear =>
    have hnone : (Event.clear.apply d).get? key = none := rfl
    simp [Event.Removes, hnone]

theorem mem_keys_apply_iff :
    key ∈ (e.apply d).keys ↔ e.Writes key ∨ (key ∈ d.keys ∧ ¬ e.Removes key) := by
  have hwrites : (∃ value, e = .write key value) ↔ e.Writes key := Iff.rfl
  rw [mem_keys_iff, mem_keys_iff]
  simp only [get?_apply_iff, exists_or, exists_and_right, hwrites]
  tauto

/-- Keys keep their order, and a key that was not there comes last. -/
theorem keys_apply (d : Dict α) (e : Event α) :
    (e.apply d).keys.Sublist d.keys ∨
      ∃ key, e.Writes key ∧ key ∉ d.keys ∧ (e.apply d).keys = d.keys ++ [key] := by
  cases e with
  | write k v =>
    rw [Event.apply, keys_insert]
    by_cases h : k ∈ d.keys
    · rw [if_pos h]
      exact .inl (List.Sublist.refl _)
    · rw [if_neg h]
      exact .inr ⟨k, ⟨v, rfl⟩, h, rfl⟩
  | remove k =>
    rw [Event.apply, keys_erase]
    exact .inl List.erase_sublist
  | clear => exact .inl (List.nil_sublist _)

namespace Reflects

theorem empty : Reflects [] (∅ : Dict α) where
  nodup := List.nodup_nil
  get?_iff key value := by
    refine iff_of_false (Option.some_ne_none value).symm ?_
    rintro ⟨before, after, h, -⟩
    simp at h
  mem_iff key := by
    refine iff_of_false List.not_mem_nil ?_
    rintro ⟨place, hplace⟩
    exact Nat.not_lt_zero _ hplace.lt_length
  ordered := List.Pairwise.nil

/-- One more event does not change the order of the keys that are there. -/
theorem ordered_append (h : Reflects l d) (e : Event α) : d.keys.Pairwise fun key other =>
    ∀ i j, Entered (l ++ [e]) key i → Entered (l ++ [e]) other j → i < j := by
  refine h.ordered.imp_of_mem fun {key other} hkey hother hlt i j hi hj => ?_
  obtain ⟨_, hkey⟩ := (h.mem_iff key).mp hkey
  obtain ⟨_, hother⟩ := (h.mem_iff other).mp hother
  exact hlt i j (hi.of_append hkey) (hj.of_append hother)

theorem step (h : Reflects l d) (e : Event α) : Reflects (l ++ [e]) (e.apply d) where
  nodup := (e.apply d).nodup
  get?_iff key value := by rw [get?_apply_iff, holds_append_iff, h.get?_iff]
  mem_iff key := by rw [mem_keys_apply_iff, exists_entered_append_iff, h.mem_iff]
  ordered := by
    rcases keys_apply d e with hsub | ⟨new, hwrites, hnew, hkeys⟩
    · exact (h.ordered_append e).sublist hsub
    · rw [hkeys, List.pairwise_append]
      refine ⟨h.ordered_append e, List.pairwise_singleton _ _, ?_⟩
      -- the new key enters at the end of the history, behind all that are there
      intro key hkey other hother i j hi hj
      obtain rfl := List.mem_singleton.mp hother
      obtain ⟨_, hplace⟩ := (h.mem_iff key).mp hkey
      rcases entered_append_iff.mp hj with ⟨hj, -⟩ | ⟨rfl, -⟩
      · exact absurd ((h.mem_iff other).mpr ⟨j, hj⟩) hnew
      · exact (hi.of_append hplace).lt_length

/-- A run of events from the empty map. -/
theorem run (l : List (Event α)) : Reflects l (l.foldl Event.apply ∅) := by
  induction l using List.reverseRecOn with
  | nil => exact empty
  | append_singleton l e ih =>
    rw [List.foldl_append]
    exact ih.step e

end Reflects

/-! ## Runs of operations -/

theorem extend_eq (d : Dict α) (pairs : Entries α) :
    d.extend pairs = (pairs.map fun p => .write p.1 p.2).foldl Event.apply d := by
  rw [List.foldl_map]
  rfl

theorem perform_eq (d : Dict α) (op : Op α) :
    (op.perform d).2 = op.events.foldl Event.apply d := by
  cases op with
  | insert key value => exact congrArg Prod.snd (getThenInsert?_eq d key value)
  | set key value => rfl
  | remove key => exact congrArg Prod.snd (getThenErase?_eq d key)
  | extend pairs => exact extend_eq d pairs
  | collect pairs => exact extend_eq ∅ pairs

theorem after_eq (ops : List (Op α)) : after ops = (history ops).foldl Event.apply ∅ := by
  rw [after, history, List.foldl_flatMap]
  exact congrArg (fun f => ops.foldl f ∅) (funext₂ perform_eq)

theorem reflects_after (ops : List (Op α)) : Reflects (history ops) (after ops) := by
  rw [after_eq]
  exact Reflects.run _

theorem after_append (ops : List (Op α)) (op : Op α) :
    after (ops ++ [op]) = op.events.foldl Event.apply (after ops) := by
  rw [after, List.foldl_append, ← perform_eq]
  rfl

/-- Writing keys that are there moves none. -/
theorem keys_foldl_of_writes : ∀ {events : List (Event α)} {d : Dict α},
    (∀ e ∈ events, ∃ key ∈ d.keys, e.Writes key) → (events.foldl Event.apply d).keys = d.keys
  | [], _, _ => rfl
  | e :: events, d, h => by
    obtain ⟨⟨key, hkey, value, rfl⟩, hrest⟩ := List.forall_mem_cons.mp h
    have hkeys : (d.insert key value).keys = d.keys := by rw [keys_insert, if_pos hkey]
    rw [List.foldl_cons, Event.apply, keys_foldl_of_writes (by rwa [hkeys]), hkeys]

/--
Behind every run of operations on the empty map, the map is what the history of the run says : no
key occurs twice, keys have the values that were last written to them since they were last removed,
and stand in the order of their first writes since then. Inserting and removing a key answer the
value that it had. Writing keys that are there does not move any, and removing a key leaves the
others in their order. Two maps are equal exactly if they hold the same pairs.
-/
theorem reflects_history [DecidableEq α] (ops : List (Op α)) :
    Reflects (history ops) (after ops) ∧
    (∀ key value old, ((Op.insert key value).perform (after ops)).1 = some old ↔
      Holds (history ops) key old) ∧
    (∀ key old, ((Op.remove key).perform (after ops)).1 = some old ↔
      Holds (history ops) key old) ∧
    (∀ op : Op α, (∀ e ∈ op.events, ∃ key ∈ (after ops).keys, e.Writes key) →
      (after (ops ++ [op])).keys = (after ops).keys) ∧
    (∀ key, (after (ops ++ [.remove key])).keys = (after ops).keys.filter (· ≠ key)) ∧
    ∀ ops', (after ops).same (after ops') = true ↔
      ∀ p, p ∈ (after ops).entries ↔ p ∈ (after ops').entries := by
  have hreflects := reflects_after ops
  refine ⟨hreflects, fun key value old => ?_, fun key old => ?_, fun op hop => ?_, fun key => ?_,
    fun ops' => ?_⟩
  · rw [Op.perform, getThenInsert?_eq, hreflects.get?_iff]
  · rw [Op.perform, getThenErase?_eq, hreflects.get?_iff]
  · rw [after_append, keys_foldl_of_writes hop]
  · have hkeys : (after (ops ++ [.remove key])).keys = (after ops).keys.erase key := by
      rw [after_append]
      exact keys_erase _ key
    rw [hkeys, hreflects.nodup.erase_eq_filter]
    exact List.filter_congr fun k _ => (decide_not ..).symm
  · rw [same_iff, ← perm_entries_iff]
    exact List.perm_ext_iff_of_nodup (nodup_entries _) (nodup_entries _)

/-- A class is overwritten in its place, removed, and set again behind the other keys. -/
def restyled : List (Op String) :=
  [.insert "class" "a", .set "id" "x", .insert "class" "b", .remove "class",
    .extend [("title", "t"), ("class", "c")]]

/-- The same attributes, collected in another order. -/
def collected : List (Op String) := [.collect [("class", "c"), ("title", "t"), ("id", "x")]]

theorem reflects_history_restyled :
    (after restyled).entries = [("id", "x"), ("title", "t"), ("class", "c")] ∧
    Holds (history restyled) "class" "c" ∧
    (after (restyled ++ [.extend [("class", "d"), ("id", "y")]])).keys = (after restyled).keys ∧
    (after (restyled ++ [.remove "title"])).keys = ["id", "class"] ∧
    (after restyled).same (after collected) = true := by
  have hentries : (after restyled).entries = [("id", "x"), ("title", "t"), ("class", "c")] := by
    decide
  have hcollected : (after collected).entries = [("class", "c"), ("title", "t"), ("id", "x")] := by
    decide
  obtain ⟨hreflects, -, -, hkeys, hremove, hsame⟩ := reflects_history restyled
  refine ⟨hentries, (hreflects.get?_iff _ _).mp (by decide), hkeys _ ?_, ?_, ?_⟩
  · exact List.forall_mem_cons.mpr ⟨⟨"class", by decide, "d", rfl⟩,
      List.forall_mem_singleton.mpr ⟨"id", by decide, "y", rfl⟩⟩
  · rw [hremove]
    decide
  · rw [hsame, hentries, hcollected]
    intro p
    simp only [List.mem_cons, List.not_mem_nil, or_false]
    tauto

end Dict

end Livery
