import Livery.Proofs.Children
import Livery.Proofs.Decoding

/-!
# Warnings and mentions

A check warns about what a configuration mentions and does not declare. What is mentioned is read
off the decoded configuration, as a list with a place for each item (`Mentions`), and `Reports` says
that the findings of a check are warnings about those mentions that dangle : one for each, in order
and at its place.

`Check.warned` keeps the warnings of a check. The checks of shapes have none, and the combinators of
checks pass on the warnings of their parts. So does `Reports` : it follows a check along the
combinators, where the decoder reads the same fields.
-/

namespace Livery

/-! ## Warnings -/

namespace Check

/-- The warnings among some findings. -/
def warned (findings : List Finding) : List Finding :=
  findings.filter fun f => f.problem.severity = .warning

theorem warnings_eq (findings : List Finding) :
    (Report.mk findings).warnings = (warned findings).map Finding.diagnostic := rfl

@[simp] theorem warned_append (l l' : List Finding) : warned (l ++ l') = warned l ++ warned l' :=
  List.filter_append _ _

@[simp] theorem warned_inside (s : Step) (l : List Finding) :
    warned (inside s l) = inside s (warned l) := by
  rw [warned, inside, List.filter_map]
  rfl

@[simp] theorem inside_nil (s : Step) : inside s [] = [] := rfl

theorem warned_flatMap {α : Type} (f : α → List Finding) (l : List α) :
    warned (l.flatMap f) = l.flatMap fun a => warned (f a) := by
  induction l with
  | nil => rfl
  | cons a l ih => rw [List.flatMap_cons, List.flatMap_cons, warned_append, ih]

@[simp] theorem warned_demand (d : Demand) (v : Option Json) : warned (demand d v) = [] := by
  rw [demand]
  cases d.holds v <;> rfl

@[simp] theorem warned_field (fields : Entries Json) (key : String)
    (check : Option Json → List Finding) :
    warned (field fields key check) = inside (.field key) (warned (check (fields.lookup key))) :=
  warned_inside _ _

@[simp] theorem warned_given (fields : Entries Json) (key : String) (check : Json → List Finding) :
    warned (given fields key check) = given fields key fun v => warned (check v) := by
  rw [given, given]
  cases fields.lookup key with
  | none => rfl
  | some v => exact warned_inside _ _

@[simp] theorem given_nil (fields : Entries Json) (key : String) :
    given fields key (fun _ => []) = [] := by
  rw [given]
  cases fields.lookup key <;> rfl

@[simp] theorem warned_requiredText (fields : Entries Json) (key : String) :
    warned (requiredText fields key) = [] := by
  simp [requiredText]

@[simp] theorem warned_givenText (fields : Entries Json) (key : String) :
    warned (givenText fields key) = [] := by
  simp [givenText]

theorem warned_object {d : Demand} {check : Entries Json → List Finding}
    (h : ∀ fields, warned (check fields) = []) (v : Json) : warned (object d check v) = [] := by
  cases v with
  | obj fields => exact h fields
  | _ => rfl

theorem warned_eachField {check : Json → List Finding} (h : ∀ v, warned (check v) = [])
    (fields : Entries Json) : warned (eachField check fields) = [] := by
  rw [eachField, warned_flatMap, List.flatMap_eq_nil_iff]
  intro p _
  rw [warned_inside, h, inside_nil]

theorem warned_eachItem {check : Json → List Finding} {l : List Json}
    (h : ∀ v ∈ l, warned (check v) = []) : warned (eachItem check l) = [] := by
  rw [eachItem, warned_flatMap, List.flatMap_eq_nil_iff]
  intro p hp
  rw [warned_inside, h p.1 (List.fst_mem_of_mem_zipIdx hp), inside_nil]

/-- An object whose values are checked without warnings. -/
theorem warned_values {d : Demand} {check : Json → List Finding} (h : ∀ v, warned (check v) = [])
    (v : Json) : warned (object d (eachField check) v) = [] :=
  warned_object (warned_eachField h) v

@[simp] theorem warned_givenTexts (fields : Entries Json) (key : String) :
    warned (givenTexts fields key) = [] := by
  simp [givenTexts, warned_values]

end Check

/-! ## Mentions -/

/-- What is mentioned in a configuration, in order, each with the path to its place. -/
abbrev Mentions (ρ : Type) := List (Path × ρ)

/-- The mentions of a part, behind the step that leads there. -/
def Mentions.inside {ρ : Type} (s : Step) (m : Mentions ρ) : Mentions ρ :=
  m.map fun p => (s :: p.1, p.2)

/-- The findings report, one by one and in order, the mentions that dangle, each at its place. -/
def Reports {ρ : Type} (dangles : ρ → Bool) (tells : ρ → Dangling → Prop) (findings : List Finding)
    (mentions : Mentions ρ) : Prop :=
  List.Forall₂ (fun f p => f.path = p.1 ∧ ∃ d, f.problem = .dangling d ∧ tells p.2 d) findings
    (mentions.filter fun p => dangles p.2)

namespace Reports

open Check (warned)

variable {ρ : Type} {dangles : ρ → Bool} {tells : ρ → Dangling → Prop} {fs fs' : List Finding}
  {m m' : Mentions ρ}

theorem nil : Reports dangles tells [] [] := List.Forall₂.nil

theorem append (h : Reports dangles tells fs m) (h' : Reports dangles tells fs' m') :
    Reports dangles tells (fs ++ fs') (m ++ m') := by
  rw [Reports, List.filter_append]
  exact List.rel_append h h'

theorem inside (s : Step) (h : Reports dangles tells fs m) :
    Reports dangles tells (Check.inside s fs) (m.inside s) := by
  rw [Reports, Mentions.inside, List.filter_map, Check.inside, List.forall₂_map_left_iff,
    List.forall₂_map_right_iff]
  exact h.imp fun _ _ hf => ⟨congrArg (s :: ·) hf.1, hf.2⟩

/-- A reference is reported unless what it names is declared. -/
theorem reference {r : ρ} {d : Dangling} (declared : Bool) (hdeclared : dangles r = !declared)
    (htells : declared = false → tells r d) :
    Reports dangles tells (warned (if declared then [] else Check.dangling d)) [([], r)] := by
  cases declared with
  | true =>
    rw [Reports, List.filter_singleton, hdeclared]
    exact .nil
  | false =>
    rw [Reports, List.filter_singleton, hdeclared]
    exact .cons ⟨rfl, d, rfl, htells rfl⟩ .nil

/-- Mentions that carry more than what decides about them. -/
theorem map {σ : Type} {f : σ → ρ} {m : Mentions σ}
    (h : Reports (fun a => dangles (f a)) (fun a => tells (f a)) fs m) :
    Reports dangles tells fs (m.map fun p => (p.1, f p.2)) := by
  rw [Reports, List.filter_map, List.forall₂_map_right_iff]
  exact h

/-- If the problem of a mention is determined, then so are the findings. -/
theorem eq_map {f : ρ → Dangling} (h : Reports dangles (fun r d => d = f r) fs m) :
    fs = (m.filter fun p => dangles p.2).map fun p => ⟨p.1, .dangling (f p.2)⟩ := by
  rw [← List.forall₂_eq_eq_eq, List.forall₂_map_right_iff]
  refine h.imp fun g p hp => ?_
  obtain ⟨hpath, d, hproblem, rfl⟩ := hp
  cases g
  cases hpath
  cases hproblem
  rfl

/-- Parts that are reported one by one are reported in a row. -/
theorem flatMap {α β : Type} {f : α → List Finding} {g : β → Mentions ρ} {l : List α} {l' : List β}
    (h : List.Forall₂ (fun a b => Reports dangles tells (f a) (g b)) l l') :
    Reports dangles tells (l.flatMap f) (l'.flatMap g) := by
  induction h with
  | nil => exact nil
  | cons hab _ ih =>
    rw [List.flatMap_cons, List.flatMap_cons]
    exact hab.append ih

/-- The items of an array, each decoded to an item of a list. -/
theorem eachItem {β : Type} {check : Json → List Finding} {g : β → Mentions ρ} {l : List Json}
    {l' : List β}
    (h : List.Forall₂ (fun v b => Reports dangles tells (warned (check v)) (g b)) l l') :
    Reports dangles tells (warned (Check.eachItem check l))
      (l'.zipIdx.flatMap fun p => (g p.1).inside (.index p.2)) := by
  rw [Check.eachItem, Check.warned_flatMap]
  refine flatMap ?_
  have hfrom : ∀ i, List.Forall₂ (fun p q => p.2 = q.2 ∧
      Reports dangles tells (warned (check p.1)) (g q.1)) (l.zipIdx i) (l'.zipIdx i) := by
    induction h with
    | nil => exact fun _ => .nil
    | cons hab _ ih => exact fun i => .cons ⟨rfl, hab⟩ (ih (i + 1))
  refine (hfrom 0).imp fun p q hpq => ?_
  rw [Check.warned_inside, hpq.1]
  exact hpq.2.inside _

/-- The values of an object, each decoded to the value of its key. -/
theorem eachField {β : Type} {check : Json → List Finding} {g : β → Mentions ρ}
    {fields : Entries Json} {entries : Entries β}
    (h : List.Forall₂ (fun p q => q.1 = p.1 ∧
      Reports dangles tells (warned (check p.2)) (g q.2)) fields entries) :
    Reports dangles tells (warned (Check.eachField check fields))
      (entries.flatMap fun q => (g q.2).inside (.field q.1)) := by
  rw [Check.eachField, Check.warned_flatMap]
  refine flatMap (h.imp fun p q hpq => ?_)
  rw [Check.warned_inside, hpq.1]
  exact hpq.2.inside _

/-! ### Along decoders -/

section

variable {β : Type} {d : Json.Decoder β} {g : β → Mentions ρ} {fields : Entries Json} {key : String}

/-- A field that may be left out. -/
theorem optional {check : Json → List Finding} {x : Option β}
    (h : Json.optional d fields key = some x) (hnull : warned (check .null) = [])
    (hpart : ∀ v b, fields.lookup key = some v → d v = some b →
      Reports dangles tells (warned (check v)) (g b)) :
    Reports dangles tells (warned (Check.given fields key check))
      (Mentions.inside (.field key) (x.toList.flatMap g)) := by
  rw [Check.warned_given, Check.given]
  rcases Json.optional_cases h with ⟨rfl, hv | hv⟩ | ⟨v, b, hv, hb, rfl⟩ <;> rw [hv]
  · exact nil
  · simp only [hnull]
    exact nil
  · simp only [Option.toList_some, List.flatMap_singleton]
    exact (hpart v b hv hb).inside _

/-- A list of items under a key, which is empty if the key is absent. -/
theorem list {check : Json → List Finding} {x : List β}
    (h : Json.defaulted (Json.decodeList d) [] fields key = some x)
    (hitem : ∀ l, fields.lookup key = some (.arr l) → ∀ v ∈ l, ∀ b, d v = some b →
      Reports dangles tells (warned (check v)) (g b)) :
    Reports dangles tells
      (warned (Check.given fields key (Check.array .array (Check.eachItem check))))
      (Mentions.inside (.field key)
        (x.zipIdx.flatMap fun p => (g p.1).inside (.index p.2))) := by
  rw [Check.warned_given, Check.given]
  rcases Json.defaulted_cases h with ⟨rfl, hv⟩ | ⟨v, hv, hx⟩ <;> rw [hv]
  · exact nil
  · obtain ⟨l, rfl, hl⟩ := Json.decodeList_eq_some hx
    refine (eachItem ?_).inside _
    rw [List.forall₂_iff_get] at hl ⊢
    refine ⟨hl.1, fun i hi hi' => ?_⟩
    exact hitem l hv _ (List.get_mem l ⟨i, hi⟩) _ (hl.2 i hi hi')

/-- A map under a key, which is empty if the key is absent. -/
theorem dict {check : Json → List Finding} {demand : Demand} {x : Dict β}
    (h : Json.defaulted (Json.decodeDict d) ∅ fields key = some x)
    (hfields : (Json.obj fields).WellFormed)
    (hvalue : ∀ l, fields.lookup key = some (.obj l) → ∀ p ∈ l, ∀ b, d p.2 = some b →
      Reports dangles tells (warned (check p.2)) (g b)) :
    Reports dangles tells
      (warned (Check.given fields key (Check.object demand (Check.eachField check))))
      (Mentions.inside (.field key)
        (x.entries.flatMap fun q => (g q.2).inside (.field q.1))) := by
  rw [Check.warned_given, Check.given]
  rcases Json.defaulted_cases h with ⟨rfl, hv⟩ | ⟨v, hv, hx⟩ <;> rw [hv]
  · exact nil
  · obtain ⟨l, rfl, hl⟩ := Json.decodeDict_eq_some (hfields.lookup hv) hx
    refine (eachField ?_).inside _
    rw [List.forall₂_iff_get] at hl ⊢
    refine ⟨hl.1, fun i hi hi' => ⟨(hl.2 i hi hi').1, ?_⟩⟩
    exact hvalue l hv _ (List.get_mem l ⟨i, hi⟩) _ (hl.2 i hi hi').2

end

end Reports

end Livery
