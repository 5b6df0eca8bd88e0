import Livery.Check.Theme
import Livery.Proofs.Children
import Livery.Proofs.Decoding
import Livery.Proofs.PathText

/-!
# The places of findings

A finding names the place of a problem by its path from the value that is checked. The path is right
(`Finding.Fits`) if it leads through the value up to its last step at least, and if what stands
there, or the absence of anything, does not meet the demand of the finding. Each combinator of
checks keeps findings right (`Check.Fitting`), so the findings of a check are right since those of
its parts are.

The values are those that can be read along the texts of paths : no object repeats a key, and no
field has dots or brackets in its name (`Json.Readable`).
-/

namespace Livery

/-! ## Readable values -/

namespace Json

mutual

/-- The names of the fields in a value, at any depth. -/
def fieldNames : Json → List String
  | .arr items => fieldNamesItems items
  | .obj fields => fieldNamesFields fields
  | _ => []

/-- The names of the fields in the items of an array. -/
def fieldNamesItems : List Json → List String
  | [] => []
  | v :: rest => fieldNames v ++ fieldNamesItems rest

/-- The names of some fields and of the fields in their values. -/
def fieldNamesFields : List (String × Json) → List String
  | [] => []
  | (name, v) :: rest => name :: (fieldNames v ++ fieldNamesFields rest)

end

theorem fieldNames_arr (items : List Json) : (arr items).fieldNames = items.flatMap fieldNames := by
  rw [fieldNames]
  induction items with
  | nil => rfl
  | cons v rest ih => rw [fieldNamesItems, ih, List.flatMap_cons]

theorem fieldNames_obj (fields : Entries Json) :
    (obj fields).fieldNames = fields.flatMap fun p => p.1 :: p.2.fieldNames := by
  rw [fieldNames]
  induction fields with
  | nil => rfl
  | cons p rest ih =>
    rw [fieldNamesFields, ih, List.flatMap_cons, List.cons_append]

/-- No object in the value repeats a key, and all keys can stand in a path. -/
structure Readable (v : Json) : Prop where
  wellFormed : v.WellFormed
  plain : ∀ name ∈ v.fieldNames, Path.IsPlain name

namespace Readable

variable {fields : Entries Json} {p : String × Json}

theorem of_mem_items {items : List Json} {v : Json} (h : (arr items).Readable) (hv : v ∈ items) :
    v.Readable := by
  obtain ⟨hwell, hplain⟩ := h
  rw [WellFormed] at hwell
  rw [fieldNames_arr] at hplain
  exact ⟨WellFormed.of_mem_items hwell hv,
    fun name hname => hplain name (List.mem_flatMap.mpr ⟨v, hv, hname⟩)⟩

theorem of_mem_fields (h : (obj fields).Readable) (hp : p ∈ fields) : p.2.Readable := by
  obtain ⟨hwell, hplain⟩ := h
  rw [WellFormed] at hwell
  rw [fieldNames_obj] at hplain
  exact ⟨WellFormed.of_mem hwell.2 hp,
    fun name hname => hplain name (List.mem_flatMap.mpr ⟨p, hp, List.mem_cons_of_mem _ hname⟩)⟩

theorem plain_of_mem_fields (h : (obj fields).Readable) (hp : p ∈ fields) : Path.IsPlain p.1 := by
  refine h.plain p.1 ?_
  rw [fieldNames_obj]
  exact List.mem_flatMap.mpr ⟨p, hp, List.mem_cons_self⟩

theorem lookup_of_mem_fields (h : (obj fields).Readable) (hp : p ∈ fields) :
    fields.lookup p.1 = some p.2 := by
  have hwell := h.wellFormed
  rw [WellFormed] at hwell
  exact (Entries.lookup_eq_some_iff_mem hwell.1).mpr hp

end Readable

end Json

/-! ## Demands that are not met -/

namespace Demand

variable {v : Option Json}

theorem isText_eq_false (h : v.bind Json.asText? = none) : isText v = false := by
  cases v with
  | none => rfl
  | some w =>
    rw [Option.bind_some] at h
    rw [isText, Option.any_some, Json.isText, h, Option.isSome_none]

theorem isNonEmptyText_eq_false (h : v.bind Json.asText? = none) : isNonEmptyText v = false := by
  rw [isNonEmptyText, h, Option.any_none]

theorem isTextArray_eq_false (h : v.bind Json.asItems? = none) : isTextArray v = false := by
  rw [isTextArray, h, Option.any_none]

theorem array_holds_eq_false (h : v.bind Json.asItems? = none) : array.holds v = false := by
  rw [holds, h, Option.isSome_none]

end Demand

/-! ## Right findings -/

/-- A finding is right about a value, or about the absence of one : its path leads through the value
up to the last step at least, and what is there has the problem. -/
structure Finding.Fits (v : Option Json) (f : Finding) : Prop where
  plain : f.path.Plain
  reached : f.path = [] ∨ (v.bind fun w => w.at? f.path.dropLast).isSome
  unmet : ∀ d, f.problem = .unmet d → d.holds (v.bind fun w => w.at? f.path) = false
  dangling : ∀ r, f.problem = .dangling r → (v.bind fun w => w.at? f.path).isSome

/-- A finding about a part is right about the whole, behind the step to the part. -/
theorem Finding.Fits.inside {v : Json} {s : Step} {f : Finding}
    (hs : ∀ name, s = .field name → Path.IsPlain name) (h : f.Fits (v.step? s)) :
    Finding.Fits (some v) { f with path := s :: f.path } := by
  refine ⟨fun name hname => ?_, Or.inr ?_, h.unmet, h.dangling⟩
  · rcases List.mem_cons.mp hname with heq | hmem
    · exact hs name heq.symm
    · exact h.plain name hmem
  · cases hpath : f.path with
    | nil => rfl
    | cons t rest =>
      have hreached := h.reached
      rw [hpath] at hreached
      exact hreached.resolve_left (List.cons_ne_nil t rest)

namespace Check

open Demand (isObject)

/-- All of some findings are right about a value. -/
def Fitting (v : Option Json) (l : List Finding) : Prop := ∀ f ∈ l, f.Fits v

section

variable {v : Option Json} {fields : Entries Json} {key : String}

@[simp] theorem fitting_nil : Fitting v [] := fun _ hf => by cases hf

theorem fitting_append {l l' : List Finding} (h : Fitting v l) (h' : Fitting v l') :
    Fitting v (l ++ l') := fun f hf => (List.mem_append.mp hf).elim (h f) (h' f)

theorem fitting_flatMap {α : Type} {l : List α} {f : α → List Finding}
    (h : ∀ a ∈ l, Fitting v (f a)) : Fitting v (l.flatMap f) := by
  intro x hx
  obtain ⟨a, ha, hx⟩ := List.mem_flatMap.mp hx
  exact h a ha x hx

theorem fitting_unmet {d : Demand} (h : d.holds v = false) : Fitting v (unmet d) := by
  intro f hf
  obtain rfl := List.mem_singleton.mp hf
  refine ⟨fun _ hmem => (List.not_mem_nil hmem).elim, Or.inl rfl, fun d' hd => ?_, nofun⟩
  cases hd
  cases v <;> exact h

theorem fitting_dangling {w : Json} (r : Dangling) : Fitting (some w) (dangling r) := by
  intro f hf
  obtain rfl := List.mem_singleton.mp hf
  exact ⟨fun _ hmem => (List.not_mem_nil hmem).elim, Or.inl rfl, nofun, fun _ _ => rfl⟩

theorem fitting_demand (d : Demand) (v : Option Json) : Fitting v (demand d v) := by
  rw [demand]
  split
  · exact fitting_nil
  · rename_i h
    exact fitting_unmet (Bool.eq_false_iff.mpr h)

theorem fitting_inside {w : Json} {s : Step} {l : List Finding}
    (hs : ∀ name, s = .field name → Path.IsPlain name) (h : Fitting (w.step? s) l) :
    Fitting (some w) (inside s l) := by
  intro f hf
  obtain ⟨g, hg, rfl⟩ := List.mem_map.mp hf
  exact (h g hg).inside hs

/-! ## Fields and items -/

theorem fitting_field {check : Option Json → List Finding} (hkey : Path.IsPlain key)
    (h : Fitting (fields.lookup key) (check (fields.lookup key))) :
    Fitting (some (.obj fields)) (field fields key check) :=
  fitting_inside (by rintro name ⟨⟩; exact hkey) h

theorem fitting_given {check : Json → List Finding} (hfields : (Json.obj fields).Readable)
    (h : ∀ w, fields.lookup key = some w → w.Readable → Fitting (some w) (check w)) :
    Fitting (some (.obj fields)) (given fields key check) := by
  rw [given]
  cases hw : fields.lookup key with
  | none => exact fitting_nil
  | some w =>
    have hmem := Entries.mem_of_lookup hw
    refine fitting_inside (by rintro name ⟨⟩; exact hfields.plain_of_mem_fields hmem) ?_
    rw [Json.step?, Json.field?, hw]
    exact h w hw (hfields.of_mem_fields hmem)

theorem fitting_eachField {check : Json → List Finding} (hfields : (Json.obj fields).Readable)
    (h : ∀ w : Json, w.Readable → Fitting (some w) (check w)) :
    Fitting (some (.obj fields)) (eachField check fields) := by
  refine fitting_flatMap fun p hp => ?_
  refine fitting_inside (by rintro name ⟨⟩; exact hfields.plain_of_mem_fields hp) ?_
  rw [Json.step?, Json.field?, hfields.lookup_of_mem_fields hp]
  exact h p.2 (hfields.of_mem_fields hp)

theorem fitting_eachItem {check : Json → List Finding} {items : List Json}
    (hitems : (Json.arr items).Readable)
    (h : ∀ w ∈ items, w.Readable → Fitting (some w) (check w)) :
    Fitting (some (.arr items)) (eachItem check items) := by
  refine fitting_flatMap fun p hp => ?_
  have hitem : items[p.2]? = some p.1 := List.mem_zipIdx_iff_getElem?.mp hp
  have hmem : p.1 ∈ items := List.mem_of_getElem? hitem
  refine fitting_inside nofun ?_
  rw [Json.step?, Json.asItems?, Option.bind_some, hitem]
  exact h p.1 hmem (hitems.of_mem_items hmem)

theorem fitting_object {d : Demand} {check : Entries Json → List Finding} {w : Json}
    (hd : d.holds = isObject) (hw : w.Readable)
    (h : ∀ fields, (Json.obj fields).Readable → Fitting (some (.obj fields)) (check fields)) :
    Fitting (some w) (object d check w) := by
  cases w with
  | obj fields => exact h fields hw
  | _ => exact fitting_unmet (by rw [hd]; rfl)

/-- An object whose values are checked. -/
theorem fitting_values {d : Demand} {check : Json → List Finding} {w : Json}
    (hd : d.holds = isObject) (hw : w.Readable)
    (h : ∀ x : Json, x.Readable → Fitting (some x) (check x)) :
    Fitting (some w) (object d (eachField check) w) :=
  fitting_object hd hw fun _ hfields => fitting_eachField hfields h

theorem fitting_array {d : Demand} {check : List Json → List Finding} {w : Json}
    (hd : ∀ x : Option Json, x.bind Json.asItems? = none → d.holds x = false)
    (h : ∀ items, w = .arr items → Fitting (some w) (check items)) :
    Fitting (some w) (array d check w) := by
  cases w with
  | arr items => exact h items rfl
  | _ => exact fitting_unmet (hd _ rfl)

/-- A field with an object whose values are checked. -/
theorem fitting_givenValues {check : Json → List Finding} (hfields : (Json.obj fields).Readable)
    (h : ∀ w : Json, w.Readable → Fitting (some w) (check w)) :
    Fitting (some (.obj fields)) (given fields key (object .object (eachField check))) :=
  fitting_given hfields fun _ _ hw => fitting_values rfl hw h

theorem fitting_requiredText (hkey : Path.IsPlain key) :
    Fitting (some (.obj fields)) (requiredText fields key) :=
  fitting_field hkey (fitting_demand _ _)

theorem fitting_givenText (hfields : (Json.obj fields).Readable) :
    Fitting (some (.obj fields)) (givenText fields key) :=
  fitting_given hfields fun _ _ _ => fitting_demand _ _

theorem fitting_givenTexts (hfields : (Json.obj fields).Readable) :
    Fitting (some (.obj fields)) (givenTexts fields key) :=
  fitting_givenValues hfields fun _ _ => fitting_demand _ _

/-- A check of a text that may be absent. -/
theorem fitting_textOr {d : Demand} {check : String → List Finding}
    (hd : ∀ x : Option Json, x.bind Json.asText? = none → d.holds x = false)
    (h : ∀ s, Fitting (some (.str s)) (check s)) : Fitting v (textOr d check v) := by
  cases v with
  | none => exact fitting_unmet (hd none rfl)
  | some w =>
    cases w with
    | str s => exact h s
    | _ => exact fitting_unmet (hd _ rfl)

theorem fitting_textThen {check : String → List Finding} {w : Json}
    (h : ∀ s, Fitting (some (.str s)) (check s)) : Fitting (some w) (textThen check w) := by
  cases w with
  | str s => exact h s
  | _ => exact fitting_unmet rfl

/-- The children of an object, if there are any. -/
theorem fitting_children {check : Json → List Finding} (hfields : (Json.obj fields).Readable)
    (h : ∀ l, fields.lookup "children" = some (.arr l) → ∀ w ∈ l, w.Readable →
      Fitting (some w) (check w)) :
    Fitting (some (.obj fields)) (given fields "children" (array .array (eachItem check))) := by
  refine fitting_given hfields fun w hlookup hw => ?_
  refine fitting_array (fun _ => Demand.array_holds_eq_false) fun items hitems => ?_
  subst hitems
  exact fitting_eachItem hw (h items hlookup)

end

end Check

end Livery
