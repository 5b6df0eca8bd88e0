import Livery.Check.Report
import Livery.Proofs.Walk

/-!
# Shapes

A decoder and the check of the same value look at the same fields, each in its own way : a decoder
refuses (`Json.accepts`), and a check finds errors (`Check.errorFree`). Both come down to the shape
of a value. This module says for each way of reading a field, and for each combinator of checks,
which shape it asks for, so that a decoder and a check can be compared field by field.

Fragments, slots and synthesized elements have their like among their `children`. `Json.childInduct`
is the induction that follows them down.
-/

namespace Livery

@[simp] theorem any_const {α : Type} (x : Option α) (b : Bool) :
    x.any (fun _ => b) = (x.isSome && b) := by
  cases x <;> rfl

namespace Json

variable {α : Type}

/-- A shape of values. -/
abbrev Shape := Json → Bool

/-- The values that a decoder does not refuse. -/
def accepts (d : Decoder α) : Shape := fun v => (d v).isSome

namespace Shape

/-- A field that is there and has a shape. -/
def present (fields : Entries Json) (key : String) (s : Shape) : Bool := (fields.lookup key).any s

/-- A field that is absent or has a shape. -/
def given (fields : Entries Json) (key : String) (s : Shape) : Bool := (fields.lookup key).all s

/-- `null`, or a value with a shape. -/
def nullable (s : Shape) : Shape
  | .null => true
  | v => s v

/-- An object with fields as described. -/
def object (f : Entries Json → Bool) : Shape
  | .obj fields => f fields
  | _ => false

/-- A structure that declares these names, with fields as described. -/
def record (names : List String) (f : Entries Json → Bool) : Shape := fun v =>
  (recordFields? names v).any f

/-- An object whose values all have a shape. -/
def values (s : Shape) : Shape := object fun fields => fields.all fun p => s p.2

/-- An array whose items all have a shape. -/
def items (s : Shape) : Shape
  | .arr l => l.all s
  | _ => false

/-- A truth value. -/
def flag : Shape
  | .bool _ => true
  | _ => false

/-- A natural number below a bound. -/
def below (bound : Nat) : Shape
  | .num n => (n.below? bound).isSome
  | _ => false

/-- The name of one of the cases of an enumeration. -/
def named (names : List String) : Shape := fun v => (caseName? v).any names.contains

section

variable {fields : Entries Json} {key : String} {s s' : Shape}

theorem present_iff :
    present fields key s = true ↔ ∃ v, fields.lookup key = some v ∧ s v = true := by
  rw [present, Option.any_eq_true]

theorem given_iff : given fields key s = true ↔ ∀ v, fields.lookup key = some v → s v = true := by
  rw [given, Option.all_eq_true]

theorem object_iff {f : Entries Json → Bool} {v : Json} :
    object f v = true ↔ ∃ fields, v = .obj fields ∧ f fields = true := by
  cases v <;> simp [object]

theorem items_iff {v : Json} :
    items s v = true ↔ ∃ l, v = .arr l ∧ ∀ w ∈ l, s w = true := by
  cases v <;> simp [items]

theorem values_iff {v : Json} :
    values s v = true ↔ ∃ fields, v = .obj fields ∧ ∀ p ∈ fields, s p.2 = true := by
  simp [values, object_iff]

theorem nullable_of {v : Json} (h : s v = true) : nullable s v = true := by
  cases v <;> simp_all [nullable]

theorem given_mono (h : ∀ v, s v = true → s' v = true) (hs : given fields key s = true) :
    given fields key s' = true :=
  given_iff.mpr fun v hv => h v (given_iff.mp hs v hv)

theorem values_mono {v : Json} (h : ∀ v, s v = true → s' v = true) (hs : values s v = true) :
    values s' v = true := by
  obtain ⟨fields, rfl, hall⟩ := values_iff.mp hs
  exact values_iff.mpr ⟨fields, rfl, fun p hp => h p.2 (hall p hp)⟩

theorem items_mono {v : Json} (h : ∀ v, s v = true → s' v = true) (hs : items s v = true) :
    items s' v = true := by
  obtain ⟨l, rfl, hall⟩ := items_iff.mp hs
  exact items_iff.mpr ⟨l, rfl, fun w hw => h w (hall w hw)⟩

/-- Where a field has a shape that decides between two others, these agree on it. -/
theorem given_congr {c : Shape} (hc : given fields key c = true)
    (h : ∀ v, fields.lookup key = some v → c v = true → s v = s' v) :
    given fields key s = given fields key s' := by
  rw [given, given]
  cases hv : fields.lookup key with
  | none => rfl
  | some v => exact h v hv (given_iff.mp hc v hv)

theorem values_congr {c : Shape} {v : Json} (hc : values c v = true)
    (h : ∀ w, c w = true → s w = s' w) : values s v = values s' v := by
  obtain ⟨fields, rfl, hall⟩ := values_iff.mp hc
  rw [Bool.eq_iff_iff, values, values, object, object, List.all_eq_true, List.all_eq_true]
  exact forall₂_congr fun p hp => by rw [h p.2 (hall p hp)]

theorem items_congr {c : Shape} {l : List Json} (hc : items c (.arr l) = true)
    (h : ∀ w ∈ l, c w = true → s w = s' w) : items s (.arr l) = items s' (.arr l) := by
  rw [items, List.all_eq_true] at hc
  rw [Bool.eq_iff_iff, items, items, List.all_eq_true, List.all_eq_true]
  exact forall₂_congr fun w hw => by rw [h w hw (hc w hw)]

theorem given_nullable (h : ∀ v, s v = true → s' v = true) (hs : given fields key s = true) :
    given fields key (nullable s') = true :=
  given_mono (fun v hv => nullable_of (h v hv)) hs

end

end Shape

/-! ## What decoders accept -/

section

variable {β : Type} (d : Decoder α) (fields : Entries Json) (key : String)

@[simp] theorem isSome_required :
    (required d fields key).isSome = Shape.present fields key (accepts d) := by
  rw [required, Shape.present, Option.isSome_bind]
  rfl

@[simp] theorem isSome_defaulted (value : α) :
    (defaulted d value fields key).isSome = Shape.given fields key (accepts d) := by
  rw [defaulted, Shape.given]
  cases fields.lookup key <;> rfl

@[simp] theorem isSome_optional :
    (optional d fields key).isSome = Shape.given fields key (Shape.nullable (accepts d)) := by
  rw [optional, Shape.given]
  cases fields.lookup key with
  | none => rfl
  | some v => cases v <;> simp [Shape.nullable, accepts]

@[simp] theorem accepts_text : accepts decodeText = isText := rfl

@[simp] theorem accepts_bool : accepts decodeBool = Shape.flag := by
  funext v
  cases v <;> rfl

@[simp] theorem accepts_below (bound : Nat) : accepts (decodeBelow bound) = Shape.below bound := by
  funext v
  cases v <;> rfl

@[simp] theorem accepts_list : accepts (decodeList d) = Shape.items (accepts d) := by
  funext v
  cases v with
  | arr l => exact isSome_mapM d l
  | _ => rfl

@[simp] theorem accepts_dict : accepts (decodeDict d) = Shape.values (accepts d) := by
  funext v
  cases v with
  | obj fields =>
    rw [accepts, decodeDict, Option.isSome_map, isSome_mapM]
    simp [Shape.values, Shape.object, accepts]
  | _ => rfl

@[simp] theorem accepts_record (names : List String) (read : Entries Json → Option α) :
    accepts (decodeRecord names read) = Shape.record names fun fields => (read fields).isSome := by
  funext v
  rw [accepts, decodeRecord, Option.isSome_bind, Shape.record]

@[simp] theorem record_obj (names : List String) (f : Entries Json → Bool) (fields : Entries Json) :
    Shape.record names f (.obj fields) = f fields := rfl

@[simp] theorem accepts_case (cases : List (String × α)) :
    accepts (decodeCase cases) = Shape.named (Entries.keys cases) := by
  funext v
  rw [accepts, decodeCase, Option.isSome_bind, Shape.named]
  congr 1
  funext name
  exact Entries.isSome_lookup name cases

end

end Json

/-! ## What checks demand -/

namespace Check

open Json (Shape)

/-- Whether there are only warnings among some findings. -/
def errorFree (findings : List Finding) : Bool :=
  findings.all fun f => f.problem.severity = .warning

theorem valid_eq (findings : List Finding) : (Report.mk findings).valid = errorFree findings := by
  rw [Bool.eq_iff_iff]
  simp only [Report.valid, Report.errors, Report.diagnostics, errorFree, List.isEmpty_iff,
    List.map_eq_nil_iff, List.filter_eq_nil_iff, List.all_eq_true, decide_eq_true_eq]
  refine forall₂_congr fun f _ => ?_
  cases f.problem.severity <;> simp

@[simp] theorem errorFree_append (l l' : List Finding) :
    errorFree (l ++ l') = (errorFree l && errorFree l') :=
  List.all_append

@[simp] theorem errorFree_inside (s : Step) (l : List Finding) :
    errorFree (inside s l) = errorFree l := by
  simp [errorFree, inside, Function.comp_def]

theorem errorFree_flatMap {α : Type} (f : α → List Finding) (l : List α) :
    errorFree (l.flatMap f) = l.all fun a => errorFree (f a) := by
  simp [errorFree, List.all_flatMap]

@[simp] theorem errorFree_demand (d : Demand) (v : Option Json) :
    errorFree (demand d v) = d.holds v := by
  rw [demand]
  cases d.holds v <;> rfl

@[simp] theorem errorFree_field (fields : Entries Json) (key : String)
    (check : Option Json → List Finding) :
    errorFree (field fields key check) = errorFree (check (fields.lookup key)) :=
  errorFree_inside _ _

@[simp] theorem errorFree_given (fields : Entries Json) (key : String)
    (check : Json → List Finding) :
    errorFree (given fields key check) = Shape.given fields key fun v => errorFree (check v) := by
  rw [given, Shape.given]
  cases fields.lookup key with
  | none => rfl
  | some v => exact errorFree_inside _ _

@[simp] theorem errorFree_object (d : Demand) (check : Entries Json → List Finding) (v : Json) :
    errorFree (object d check v) = Shape.object (fun fields => errorFree (check fields)) v := by
  cases v <;> rfl

@[simp] theorem errorFree_eachField (check : Json → List Finding) (fields : Entries Json) :
    errorFree (eachField check fields) = fields.all fun p => errorFree (check p.2) := by
  simp [eachField, errorFree_flatMap]

@[simp] theorem errorFree_values (d : Demand) (check : Json → List Finding) (v : Json) :
    errorFree (object d (eachField check) v) = Shape.values (fun w => errorFree (check w)) v := by
  rw [errorFree_object]
  simp only [errorFree_eachField]
  rfl

@[simp] theorem errorFree_requiredText (fields : Entries Json) (key : String) :
    errorFree (requiredText fields key) = Demand.isNonEmptyText (fields.lookup key) := by
  rw [requiredText, errorFree_field, errorFree_demand]
  rfl

@[simp] theorem errorFree_givenText (fields : Entries Json) (key : String) :
    errorFree (givenText fields key) = Shape.given fields key Json.isText := by
  rw [givenText, errorFree_given]
  simp only [errorFree_demand]
  rfl

@[simp] theorem errorFree_givenTexts (fields : Entries Json) (key : String) :
    errorFree (givenTexts fields key) = Shape.given fields key (Shape.values Json.isText) := by
  rw [givenTexts, errorFree_given]
  simp only [errorFree_values, errorFree_demand]
  rfl

@[simp] theorem errorFree_items (d : Demand) (check : Json → List Finding) (v : Json) :
    errorFree (array d (eachItem check) v) = Shape.items (fun w => errorFree (check w)) v := by
  cases v with
  | arr l =>
    rw [array, eachItem, errorFree_flatMap, Shape.items]
    conv_rhs => rw [← List.zipIdx_map_fst 0 l, List.all_map]
    simp [Function.comp_def]
  | _ => rfl

/-- In an array without errors each item has none. -/
theorem errorFree_of_mem_array {d : Demand} {check : Json → List Finding} {fields : Entries Json}
    {key : String} (h : errorFree (given fields key (array d (eachItem check))) = true) :
    ∀ l, fields.lookup key = some (.arr l) → ∀ v ∈ l, errorFree (check v) = true := by
  intro l hl v hv
  rw [errorFree_given, Shape.given_iff] at h
  have harray := h _ hl
  rw [errorFree_items] at harray
  exact List.all_eq_true.mp harray v hv

/-- In an object without errors each value has none. -/
theorem errorFree_of_mem_object {d : Demand} {check : Json → List Finding} {fields : Entries Json}
    {key : String} (h : errorFree (given fields key (object d (eachField check))) = true) :
    ∀ l, fields.lookup key = some (.obj l) → ∀ p ∈ l, errorFree (check p.2) = true := by
  intro l hl p hp
  rw [errorFree_given, Shape.given_iff] at h
  have hobject := h _ hl
  rw [errorFree_values] at hobject
  exact List.all_eq_true.mp hobject p hp

@[simp] theorem isText_lookup (fields : Entries Json) (key : String) :
    Demand.isText (fields.lookup key) = Shape.present fields key Json.isText := rfl

@[simp] theorem isText_some (v : Json) : Demand.isText (some v) = v.isText := rfl

/-- A field that is demanded is there, with the shape that is demanded. -/
theorem present_of_met {p : Option Json → Bool} {s : Shape} {fields : Entries Json} {key : String}
    (hnone : p none = false) (hsome : ∀ v, p (some v) = true → s v = true)
    (h : p (fields.lookup key) = true) : Shape.present fields key s = true := by
  cases hv : fields.lookup key with
  | none => rw [hv, hnone] at h; cases h
  | some v => exact Shape.present_iff.mpr ⟨v, hv, hsome v (hv ▸ h)⟩

theorem present_of_isNonEmptyText {fields : Entries Json} {key : String}
    (h : Demand.isNonEmptyText (fields.lookup key) = true) :
    Shape.present fields key Json.isText = true := by
  refine present_of_met rfl (fun v hv => ?_) h
  cases v with
  | str s => rfl
  | _ => cases hv

/-- A check of a text; anything else, or nothing, does not meet the demand. -/
def textOr (d : Demand) (check : String → List Finding) : Option Json → List Finding
  | some (.str s) => check s
  | _ => unmet d

theorem present_of_textOr (d : Demand) (check : String → List Finding) {fields : Entries Json}
    {key : String} (h : errorFree (textOr d check (fields.lookup key)) = true) :
    Shape.present fields key Json.isText = true := by
  refine present_of_met (p := fun v => errorFree (textOr d check v)) rfl (fun v hv => ?_) h
  cases v with
  | str s => rfl
  | _ => cases hv

end Check

/-! ## Values among their children -/

namespace Json

theorem sizeOf_lt_of_lookup {key : String} {v : Json} {fields : Entries Json}
    (h : fields.lookup key = some v) : sizeOf v < sizeOf fields := by
  have hlt := List.sizeOf_lt_of_mem (Entries.mem_of_lookup h)
  rw [Prod.mk.sizeOf_spec] at hlt
  omega

/-- Induction on objects along the arrays of their children. -/
theorem childInduct {motive : Json → Prop}
    (object : ∀ fields, (∀ l, fields.lookup "children" = some (.arr l) → ∀ v ∈ l, motive v) →
      motive (.obj fields))
    (other : ∀ v, v.asFields? = none → motive v) : ∀ v, motive v
  | .obj fields => object fields fun _ _hl v _hv => childInduct object other v
  | .null => other _ rfl
  | .bool _ => other _ rfl
  | .num _ => other _ rfl
  | .str _ => other _ rfl
  | .arr _ => other _ rfl
termination_by v => sizeOf v
decreasing_by
  have hitem := List.sizeOf_lt_of_mem _hv
  have hfield := sizeOf_lt_of_lookup _hl
  rw [Json.arr.sizeOf_spec] at hfield
  rw [Json.obj.sizeOf_spec]
  omega

end Json

end Livery
