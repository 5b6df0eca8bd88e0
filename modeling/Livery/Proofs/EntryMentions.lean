import Livery.Proofs.Texts
import Livery.Proofs.Warnings
import Livery.Theme.Coding

/-!
# What synthesized elements mention

A synthesized element mentions modifiers of its component type in its gates, a text transform and a
group of icons. `Theme.mentions` lists what the entries of a theme mention, at any depth and in
order, each with the entry and with the rune that it belongs to. The check of a theme warns about
exactly those mentions that dangle (`Theme.warnings_dangling`).

A transform is decoded to a case of an enumeration, in which an unknown name is lost. The warning
about it still has the name, so a warning is determined by a mention up to that (`Mention.Tells`).
-/

namespace Livery

/-- What a synthesized element mentions. -/
inductive EntryReference
  /-- The modifier that has to have a value. -/
  | condition (name : String)
  /-- A modifier among those of which one has to have a value. -/
  | conditionAny (name : String)
  | transform (t : TextTransform)
  | iconGroup (name : String)
deriving DecidableEq

/-- A reference with the entry that has it and the rune that this entry is synthesized for. -/
structure Mention where
  rune : Rune
  entry : StructureEntry
  reference : EntryReference

/-! ## The mentions of a theme -/

namespace StructureEntry

/-- What an entry itself mentions, in the order of its fields. -/
def references (e : StructureEntry) : Mentions EntryReference :=
  Mentions.inside (.field "condition") (e.condition.toList.flatMap fun name =>
    [([], EntryReference.condition name)]) ++
  Mentions.inside (.field "conditionAny") (e.conditionAny.toList.flatMap fun names =>
    names.flatMap fun name => [([], EntryReference.conditionAny name)]) ++
  Mentions.inside (.field "transform") (e.transform.toList.flatMap fun t =>
    [([], EntryReference.transform t)]) ++
  Mentions.inside (.field "icon") (e.icon.toList.flatMap fun i =>
    Mentions.inside (.field "group") [([], EntryReference.iconGroup i.group)])

mutual

/-- The mentions of an entry : its own, then those of its children. -/
def mentions (r : Rune) : StructureEntry → Mentions Mention
  | e@⟨_, _, _, _, _, _, _, _, _, _, _, children⟩ =>
    (e.references.map fun p => (p.1, ⟨r, e, p.2⟩)) ++
      Mentions.inside (.field "children") (childMentions r 0 children)

/-- The mentions of a child of an entry; texts have none. -/
def childMention (r : Rune) : StructureChild → Mentions Mention
  | .text _ => []
  | .entry e => mentions r e

/-- The mentions of children from an index on. -/
def childMentions (r : Rune) : Nat → List StructureChild → Mentions Mention
  | _, [] => []
  | i, c :: rest => Mentions.inside (.index i) (childMention r c) ++ childMentions r (i + 1) rest

end

theorem childMentions_eq (r : Rune) (i : Nat) (l : List StructureChild) : childMentions r i l =
    (l.zipIdx i).flatMap fun p => (childMention r p.1).inside (.index p.2) := by
  induction l generalizing i with
  | nil => rfl
  | cons c rest ih => rw [childMentions, ih, List.zipIdx_cons, List.flatMap_cons]

theorem mentions_eq (r : Rune) (e : StructureEntry) : e.mentions r =
    (e.references.map fun p => (p.1, (⟨r, e, p.2⟩ : Mention))) ++
      Mentions.inside (.field "children")
        (e.children.zipIdx.flatMap fun p => (childMention r p.1).inside (.index p.2)) := by
  rw [← childMentions_eq]
  cases e
  rw [mentions]

end StructureEntry

/-- The mentions of the entries of a rune. -/
def Rune.mentions (r : Rune) : Mentions Mention :=
  Mentions.inside (.field "structure")
    (r.scaffold.entries.flatMap fun p => (p.2.mentions r).inside (.field p.1))

namespace Mention

/-- Whether what is mentioned is not there, where `groups` are the groups of icons. -/
def dangles (groups : List String) (m : Mention) : Bool :=
  match m.reference with
  | .condition name => !m.rune.modifiers.keys.contains name
  | .conditionAny name => !m.rune.modifiers.keys.contains name
  | .transform t => t = .unknown
  | .iconGroup name => !groups.contains name

/-- Whether a problem is the one that a mention is if it dangles. -/
def Tells (m : Mention) (d : Dangling) : Prop :=
  match m.reference with
  | .condition name => d = .modifier name m.rune.modifiers.keys
  | .conditionAny name => d = .modifier name m.rune.modifiers.keys
  | .transform _ => ∃ name, TextTransform.ofName name = .unknown ∧ d = .transform name
  | .iconGroup name => d = .iconGroup name

end Mention

namespace Theme

/-- The mentions of a theme, rune by rune. -/
def mentions (t : Theme) : Mentions Mention :=
  Mentions.inside (.field "runes")
    (t.runes.entries.flatMap fun p => p.2.mentions.inside (.field p.1))

/-- The mentions of a theme that dangle. -/
def dangling (t : Theme) : Mentions Mention := t.mentions.filter fun p => p.2.dangles t.icons.keys

end Theme

/-! ## What is decoded -/

theorem StructureEntry.ofFields?_eq_some {fields : Entries Json} {children : List StructureChild}
    {e : StructureEntry} (h : ofFields? fields children = some e) :
    Json.optional Json.decodeText fields "condition" = some e.condition ∧
      Json.optional (Json.decodeList Json.decodeText) fields "conditionAny" = some e.conditionAny ∧
      Json.optional TextTransform.ofJson? fields "transform" = some e.transform ∧
      Json.optional IconRef.ofJson? fields "icon" = some e.icon ∧ e.children = children := by
  obtain ⟨tag, -, h⟩ := Option.bind_eq_some_iff.mp h
  obtain ⟨label, -, h⟩ := Option.bind_eq_some_iff.mp h
  obtain ⟨before, -, h⟩ := Option.bind_eq_some_iff.mp h
  obtain ⟨condition, hcondition, h⟩ := Option.bind_eq_some_iff.mp h
  obtain ⟨conditionAny, hany, h⟩ := Option.bind_eq_some_iff.mp h
  obtain ⟨icon, hicon, h⟩ := Option.bind_eq_some_iff.mp h
  obtain ⟨metaText, -, h⟩ := Option.bind_eq_some_iff.mp h
  obtain ⟨transform, htransform, h⟩ := Option.bind_eq_some_iff.mp h
  obtain ⟨textPrefix, -, h⟩ := Option.bind_eq_some_iff.mp h
  obtain ⟨textSuffix, -, h⟩ := Option.bind_eq_some_iff.mp h
  obtain ⟨attrs, -, h⟩ := Option.bind_eq_some_iff.mp h
  cases h
  exact ⟨hcondition, hany, htransform, hicon, rfl⟩

theorem Rune.ofJson?_eq_some {fields : Entries Json} {r : Rune}
    (h : ofJson? (.obj fields) = some r) :
    Json.defaulted (Json.decodeDict ModifierSpec.ofJson?) ∅ fields "modifiers" =
        some r.modifiers ∧
      Json.defaulted (Json.decodeDict StructureEntry.ofJson?) ∅ fields "structure" =
        some r.scaffold := by
  obtain ⟨block, -, h⟩ := Option.bind_eq_some_iff.mp h
  obtain ⟨parent, -, h⟩ := Option.bind_eq_some_iff.mp h
  obtain ⟨modifiers, hmodifiers, h⟩ := Option.bind_eq_some_iff.mp h
  obtain ⟨contextModifiers, -, h⟩ := Option.bind_eq_some_iff.mp h
  obtain ⟨staticModifiers, -, h⟩ := Option.bind_eq_some_iff.mp h
  obtain ⟨autoLabel, -, h⟩ := Option.bind_eq_some_iff.mp h
  obtain ⟨contentWrapper, -, h⟩ := Option.bind_eq_some_iff.mp h
  obtain ⟨scaffold, hscaffold, h⟩ := Option.bind_eq_some_iff.mp h
  obtain ⟨styles, -, h⟩ := Option.bind_eq_some_iff.mp h
  obtain ⟨attrs, -, h⟩ := Option.bind_eq_some_iff.mp h
  cases h
  exact ⟨hmodifiers, hscaffold⟩

/-- A transform is unknown if its name is none of the known ones. -/
theorem TextTransform.ofName_eq_unknown_iff (name : String) :
    ofName name = .unknown ↔ Check.transformNames.contains name = false := by
  have hkeys : Check.transformNames = Entries.keys names := rfl
  rw [hkeys, ← Entries.isSome_lookup, ofName]
  cases h : names.lookup name with
  | none => simp
  | some t =>
    have hmem := Entries.mem_of_lookup h
    simp only [names, List.mem_cons, Prod.mk.injEq, List.not_mem_nil,
      or_false] at hmem
    rcases hmem with ⟨-, rfl⟩ | ⟨-, rfl⟩ | ⟨-, rfl⟩ <;> simp

/-! ## What the check of a theme reports -/

namespace Check

theorem warned_modifierSpec (v : Json) : warned (modifierSpec v) = [] :=
  warned_object (fun fields => by simp) v

theorem warned_contentWrapper (v : Json) : warned (contentWrapper v) = [] :=
  warned_object (fun fields => by simp) v

theorem warned_styleSpec (v : Json) : warned (styleSpec v) = [] := by
  cases v with
  | obj fields => exact warned_demand _ _
  | _ => rfl

theorem warned_texts (v : Json) :
    warned (array .textArray (eachItem fun v => demand .text (some v)) v) = [] := by
  cases v with
  | arr l => exact warned_eachItem fun v _ => warned_demand _ _
  | _ => rfl

theorem warned_iconVariants (v : Json) : warned (iconVariants v) = [] :=
  warned_values (fun _ => warned_demand _ _) v

/-- The findings report the mentions that dangle. -/
abbrev ReportsMentions (groups : List String) : List Finding → Mentions Mention → Prop :=
  Reports (Mention.dangles groups) Mention.Tells

/-- The findings report what an entry mentions that dangles for a rune. -/
abbrev ReportsReferences (groups : List String) (r : Rune) (e : StructureEntry) :
    List Finding → Mentions EntryReference → Prop :=
  Reports (fun x => Mention.dangles groups ⟨r, e, x⟩) (fun x => Mention.Tells ⟨r, e, x⟩)

section

variable {groups : List String} {r : Rune} {e : StructureEntry}

theorem reports_condition (name : String) :
    ReportsReferences groups r e (warned (modifierReference r.modifiers.keys name))
      [([], .condition name)] :=
  .reference _ rfl fun _ => rfl

theorem reports_conditionAny {v : Json} {names : List String}
    (h : Json.decodeList Json.decodeText v = some names) :
    ReportsReferences groups r e
      (warned (array .textArray (conditionAny r.modifiers.keys) v))
      (names.flatMap fun name => [([], .conditionAny name)]) := by
  obtain ⟨l, rfl, hl⟩ := Json.decodeList_eq_some h
  rw [array, conditionAny, warned_flatMap]
  refine .flatMap (hl.imp fun w name hname => ?_)
  obtain rfl := Json.eq_str_of_asText? hname
  exact .reference _ rfl fun _ => rfl

/-- The name of an unknown transform is in the finding only. -/
theorem reports_transform (name : String) :
    ReportsReferences groups r e
      (warned (if transformNames.contains name then [] else dangling (.transform name)))
      [([], .transform (TextTransform.ofName name))] := by
  refine .reference (transformNames.contains name) ?_ fun hunknown => ?_
  · rw [Mention.dangles, Bool.eq_iff_iff, decide_eq_true_eq, TextTransform.ofName_eq_unknown_iff]
    simp
  · exact ⟨name, (TextTransform.ofName_eq_unknown_iff name).mpr hunknown, rfl⟩

theorem reports_icon {v : Json} {i : IconRef}
    (hvalid : errorFree (object (.objectWith "group and variant") (icon groups) v) = true)
    (h : IconRef.ofJson? v = some i) :
    ReportsReferences groups r e
      (warned (object (.objectWith "group and variant") (icon groups) v))
      (.inside (.field "group") [([], .iconGroup i.group)]) := by
  cases v with
  | obj fields =>
    simp only [IconRef.ofJson?, Json.decodeRecord_obj, Option.bind_eq_bind,
      Option.bind_eq_some_iff, Option.some.injEq] at h
    obtain ⟨group, hgroup, variant, -, rfl⟩ := h
    rw [object, icon, warned_append, warned_field, warned_field, warned_demand, inside_nil,
      List.append_nil, Json.lookup_of_required_text hgroup]
    exact .inside _ (.reference _ rfl fun _ => rfl)
  | _ => cases hvalid

theorem reports_structureFields {fields : Entries Json} {children : List StructureChild}
    (h : StructureEntry.ofFields? fields children = some e)
    (hvalid : errorFree (structureFields r.modifiers.keys groups fields) = true) :
    ReportsMentions groups (warned (structureFields r.modifiers.keys groups fields))
      (e.references.map fun p => (p.1, ⟨r, e, p.2⟩)) := by
  obtain ⟨hcondition, hany, htransform, hicon, -⟩ := StructureEntry.ofFields?_eq_some h
  simp only [structureFields, errorFree_append, errorFree_given, Bool.and_eq_true] at hvalid
  have htext := Json.Shape.given_iff.mp hvalid.1.2
  have hgroup := Json.Shape.given_iff.mp hvalid.2
  refine .map ?_
  rw [structureFields, warned_append, warned_append, warned_append, warned_append,
    warned_requiredText, List.nil_append]
  refine .append (.append (.append ?_ ?_) ?_) ?_
  · refine .optional hcondition rfl fun v name _ hname => ?_
    obtain rfl := Json.eq_str_of_asText? hname
    exact reports_condition name
  · exact .optional hany rfl fun _ _ _ => reports_conditionAny
  · -- An object with the one field of a case is decoded too, but the check has an error for it.
    refine .optional htransform rfl fun v t hv ht => ?_
    have hv := htext v hv
    cases v with
    | str name =>
      cases ht
      exact reports_transform name
    | _ => cases hv
  · exact .optional hicon rfl fun v _ hv => reports_icon (hgroup v hv)

/-- An entry with its children, of which it is known that they are reported. -/
theorem reports_structureEntryFields {fields : Entries Json} {children : List StructureChild}
    {e : StructureEntry} (h : StructureEntry.ofFields? fields children = some e)
    (hchildren : StructureEntry.childrenOfFields? fields = some children)
    (hvalid : errorFree (structureEntry r.modifiers.keys groups (.obj fields)) = true)
    (hchild : ∀ l, fields.lookup "children" = some (.arr l) → ∀ v ∈ l,
      errorFree (structureChild r.modifiers.keys groups v) = true → ∀ c,
      StructureEntry.childOfJson? v = some c →
      ReportsMentions groups (warned (structureChild r.modifiers.keys groups v))
        (StructureEntry.childMention r c)) :
    ReportsMentions groups (warned (structureEntry r.modifiers.keys groups (.obj fields)))
      (e.mentions r) := by
  rw [structureEntry, errorFree_append, Bool.and_eq_true, structureChildrenField_eq] at hvalid
  have hown := reports_structureFields (r := r) h hvalid.1
  have hbelow := errorFree_of_mem_array hvalid.2
  obtain ⟨-, -, -, -, rfl⟩ := StructureEntry.ofFields?_eq_some h
  rw [StructureEntry.childrenOfFields?_eq] at hchildren
  rw [structureEntry, warned_append, structureChildrenField_eq, StructureEntry.mentions_eq]
  exact hown.append (.list hchildren fun l hl v hv => hchild l hl v hv (hbelow l hl v hv))

theorem reports_structureChild : ∀ v, errorFree (structureChild r.modifiers.keys groups v) = true →
    ∀ c, StructureEntry.childOfJson? v = some c →
    ReportsMentions groups (warned (structureChild r.modifiers.keys groups v))
      (StructureEntry.childMention r c) := by
  refine Json.childInduct ?_ ?_
  · intro fields ih hvalid c h
    obtain ⟨children, hchildren, h⟩ := Option.bind_eq_some_iff.mp h
    obtain ⟨e, he, rfl⟩ := Option.map_eq_some_iff.mp h
    rw [StructureEntry.childMention]
    exact reports_structureEntryFields he hchildren hvalid ih
  · intro v hv hvalid c h
    cases v with
    | str s =>
      cases h
      exact .nil
    | obj fields => cases hv
    | _ => cases hvalid

theorem reports_structureEntry {v : Json} {e : StructureEntry}
    (hvalid : errorFree (structureEntry r.modifiers.keys groups v) = true)
    (h : StructureEntry.ofJson? v = some e) :
    ReportsMentions groups (warned (structureEntry r.modifiers.keys groups v)) (e.mentions r) := by
  cases v with
  | obj fields =>
    obtain ⟨children, hchildren, he⟩ := Option.bind_eq_some_iff.mp h
    exact reports_structureEntryFields he hchildren hvalid fun _ _ v _ => reports_structureChild v
  | _ => cases hvalid

/-- Only the entries of a rune lead to warnings. -/
theorem warned_rune (groups : List String) (fields : Entries Json) :
    warned (rune groups (.obj fields)) = warned (given fields "structure"
      (object .object (eachField (structureEntry (declared fields "modifiers") groups)))) := by
  rw [rune, object]
  simp [warned_values warned_modifierSpec, warned_values warned_styleSpec, warned_contentWrapper,
    warned_texts]

theorem reports_rune {v : Json} {r : Rune} (hv : v.WellFormed)
    (hvalid : errorFree (rune groups v) = true) (h : Rune.ofJson? v = some r) :
    ReportsMentions groups (warned (rune groups v)) r.mentions := by
  cases v with
  | obj fields =>
    obtain ⟨hmodifiers, hscaffold⟩ := Rune.ofJson?_eq_some h
    rw [warned_rune, Json.declared_eq_keys hv hmodifiers]
    rw [rune, object, errorFree_append, Bool.and_eq_true,
      Json.declared_eq_keys hv hmodifiers] at hvalid
    have hentry := errorFree_of_mem_object hvalid.2
    exact .dict hscaffold hv fun l hl p hp e => reports_structureEntry (hentry l hl p hp)
  | _ => cases hvalid

end

end Check

namespace Theme

/-- The warnings about a theme are about its mentions that dangle. -/
theorem reports {v : Json} {t : Theme} (hv : v.WellFormed)
    (hvalid : Check.errorFree (Check.theme v) = true) (h : Theme.ofJson? v = some t) :
    Check.ReportsMentions t.icons.keys (Check.warned (Check.theme v)) t.mentions := by
  cases v with
  | obj fields =>
    simp only [Theme.ofJson?, Json.decodeRecord_obj, Option.bind_eq_bind,
      Option.bind_eq_some_iff, Option.some.injEq] at h
    obtain ⟨classPrefix, -, tokenPrefix, -, icons, hicons, runes, hrunes, rfl⟩ := h
    have hwarned : Check.warned (Check.theme (.obj fields)) =
        Check.warned (Check.given fields "runes"
          (Check.object .object (Check.eachField (Check.rune icons.keys)))) := by
      rw [Check.theme, Check.object, Json.declared_eq_keys hv hicons]
      simp [Check.warned_values Check.warned_iconVariants]
    rw [Check.theme, Check.object, Check.errorFree_append, Bool.and_eq_true,
      Json.declared_eq_keys hv hicons] at hvalid
    have hrune := Check.errorFree_of_mem_object hvalid.2
    rw [hwarned]
    refine .dict hrunes hv fun l hl p hp r hr => ?_
    have hwell := hv.lookup hl
    rw [Json.WellFormed] at hwell
    exact Check.reports_rune (.of_mem hwell.2 hp) (hrune l hl p hp) hr
  | _ => cases hvalid

end Theme

/-! ## Conditions that dangle -/

/-- Only declared modifiers have a value. -/
theorem Rune.contains_of_hasValue {r : Rune} {e : Element} {name : String}
    (h : StructureEntry.hasValue (r.resolve e) name = true) :
    r.modifiers.keys.contains name = true := by
  obtain ⟨value, hvalue⟩ : ∃ value, (r.resolve e).get? name = some value := by
    rw [← Option.isSome_iff_exists]
    cases hget : (r.resolve e).get? name with
    | none => rw [StructureEntry.hasValue, hget] at h; cases h
    | some value => rfl
  obtain ⟨p, hp, hmap⟩ := List.mem_filterMap.mp (Dict.mem_of_get?_ofList hvalue)
  obtain ⟨_, -, hpair⟩ := Option.map_eq_some_iff.mp hmap
  cases hpair
  exact List.contains_iff_mem.mpr (List.mem_map_of_mem hp)

namespace StructureEntry

/-- An entry with a condition that no modifier meets is built for no element. -/
theorem build_eq_none {r : Rune} {entry : StructureEntry} {name : String}
    (hcondition : entry.condition = some name) (hne : name ≠ "")
    (hname : r.modifiers.keys.contains name = false) (e : Element) (label : String) :
    entry.build (r.resolve e) label = none := by
  have hadmits : entry.admits (r.resolve e) = false := by
    have hvalue : hasValue (r.resolve e) name = false := by
      rw [Bool.eq_false_iff]
      intro h
      rw [Rune.contains_of_hasValue h] at hname
      cases hname
    have hgate : Text.nonEmpty? (some name) = some name := by
      simp [Text.nonEmpty?, Option.filter, hne]
    rw [admits, hcondition, hgate]
    simp only [hvalue, Bool.false_and]
  cases entry
  unfold build
  rw [hadmits]
  rfl

theorem condition_of_mem_references {e : StructureEntry} {p : Path × EntryReference} {name : String}
    (hp : p ∈ e.references) (h : p.2 = .condition name) : e.condition = some name := by
  obtain ⟨path, reference⟩ := p
  cases h
  have hfield : e.condition = some name ∧ [Step.field "condition"] = path := by
    simpa [references, Mentions.inside] using hp
  exact hfield.1

/-- A mention of a condition is a mention of the condition of its entry, for the rune at hand. -/
theorem condition_of_mem_mentions {r : Rune} (e : StructureEntry) : ∀ p ∈ e.mentions r,
    p.2.rune = r ∧ ∀ name, p.2.reference = .condition name → p.2.entry.condition = some name := by
  induction e using StructureEntry.induct with
  | h e ih =>
    intro p hp
    rw [mentions_eq] at hp
    rcases List.mem_append.mp hp with hp | hp
    · obtain ⟨q, hq, rfl⟩ := List.mem_map.mp hp
      exact ⟨rfl, fun name => condition_of_mem_references hq⟩
    · obtain ⟨q, hq, rfl⟩ := List.mem_map.mp hp
      obtain ⟨⟨c, i⟩, hc, hq⟩ := List.mem_flatMap.mp hq
      obtain ⟨q', hq', rfl⟩ := List.mem_map.mp hq
      cases c with
      | text s => cases hq'
      | entry x =>
        rw [childMention] at hq'
        exact ih x (List.fst_mem_of_mem_zipIdx hc) q' hq'

end StructureEntry

namespace Theme

/-- A mention of a theme is one of an entry for the rune of a component type of the theme. -/
theorem condition_of_mem_mentions {t : Theme} {p : Path × Mention} (hp : p ∈ t.mentions) :
    p.2.rune ∈ t.runes.values ∧
      ∀ name, p.2.reference = .condition name → p.2.entry.condition = some name := by
  obtain ⟨p₁, hp₁, rfl⟩ := List.mem_map.mp hp
  obtain ⟨⟨type, r⟩, hr, hp₁⟩ := List.mem_flatMap.mp hp₁
  obtain ⟨p₂, hp₂, rfl⟩ := List.mem_map.mp hp₁
  obtain ⟨p₃, hp₃, rfl⟩ := List.mem_map.mp hp₂
  obtain ⟨⟨label, e⟩, -, hp₃⟩ := List.mem_flatMap.mp hp₃
  obtain ⟨p₄, hp₄, rfl⟩ := List.mem_map.mp hp₃
  obtain ⟨hrune, hcondition⟩ := e.condition_of_mem_mentions p₄ hp₄
  exact ⟨hrune ▸ List.mem_map_of_mem hr, hcondition⟩

/-! ## The warnings of a theme -/

/--
The warnings about a theme without errors are its mentions that dangle, one for each, in the order
of the theme and at their places. An entry with a condition that dangles, and is not empty, is built
for no component.
-/
theorem warnings_dangling {v : Json} {t : Theme} (hv : v.WellFormed)
    (hvalid : (Report.mk (Check.theme v)).valid = true) (h : Theme.ofJson? v = some t) :
    List.Forall₂ (fun d p => ∃ problem, p.2.Tells problem ∧
        d = (Finding.mk p.1 (.dangling problem)).diagnostic)
      (Report.mk (Check.theme v)).warnings t.dangling ∧
    ∀ p ∈ t.dangling, ∀ name, p.2.reference = .condition name → name ≠ "" →
      p.2.rune ∈ t.runes.values ∧ p.2.entry.condition = some name ∧
        ∀ (e : Element) (label : String), p.2.entry.build (p.2.rune.resolve e) label = none := by
  constructor
  · rw [Check.valid_eq] at hvalid
    rw [Check.warnings_eq, List.forall₂_map_left_iff]
    refine (reports hv hvalid h).imp fun f p hp => ?_
    obtain ⟨hpath, problem, hproblem, htells⟩ := hp
    refine ⟨problem, htells, ?_⟩
    rw [← hpath, ← hproblem]
  · intro p hp name hname hne
    obtain ⟨hmention, hdangles⟩ := List.mem_filter.mp hp
    obtain ⟨hrune, hentry⟩ := condition_of_mem_mentions hmention
    have hcondition := hentry name hname
    refine ⟨hrune, hcondition, fun e label => ?_⟩
    simp only [Mention.dangles, hname, Bool.not_eq_true'] at hdangles
    exact StructureEntry.build_eq_none hcondition hne hdangles e label

end Theme

/-- A badge for a level, with a text that is to be reversed. -/
def badge : StructureEntry where
  tag := "span"
  condition := some "level"
  children := [.entry { tag := "b", transform := some .unknown }]

/-- Hints get a badge for a level, which they do not have. -/
def badgeRune : Rune where
  block := "hint"
  scaffold := .ofList [("badge", badge)]

/-- A theme of hints with badges. -/
def badgeTheme : Theme where
  classPrefix := "rf"
  tokenPrefix := "--rf"
  runes := .ofList [("Hint", badgeRune)]

/-- The configuration of `badgeTheme`. -/
def badgeConfig : Json :=
  .obj [("prefix", .str "rf"), ("tokenPrefix", .str "--rf"), ("runes", .obj [("Hint", .obj
    [("block", .str "hint"), ("structure", .obj [("badge", .obj
      [("tag", .str "span"), ("condition", .str "level"), ("children", .arr [.obj
        [("tag", .str "b"), ("transform", .str "reverse")]])])])])])]

/-- The condition of the badge and the transform inside it lead to the two warnings, and there are
no badges. -/
theorem warnings_dangling_badge :
    List.Forall₂ (fun d p => ∃ problem, p.2.Tells problem ∧
        d = (Finding.mk p.1 (.dangling problem)).diagnostic)
      [⟨.warning, "runes.Hint.structure.badge.condition",
          "References modifier \"level\" which is not defined in modifiers", []⟩,
        ⟨.warning, "runes.Hint.structure.badge.children[0].transform",
          "Unknown transform \"reverse\", the text is left unchanged",
          ["known transforms: duration, uppercase, capitalize"]⟩] badgeTheme.dangling ∧
    ∀ (e : Element) (label : String), badge.build (badgeRune.resolve e) label = none := by
  have hv : badgeConfig.WellFormed := by
    simp [badgeConfig, Json.WellFormed, Json.WellFormedFields, Json.WellFormedItems, Entries.keys]
  have hcheck : Check.theme badgeConfig =
      [⟨[.field "runes", .field "Hint", .field "structure", .field "badge", .field "condition"],
          .dangling (.modifier "level" [])⟩,
        ⟨[.field "runes", .field "Hint", .field "structure", .field "badge", .field "children",
          .index 0, .field "transform"], .dangling (.transform "reverse")⟩] := by
    cbv
  have hvalid : (Report.mk (Check.theme badgeConfig)).valid = true := by
    rw [hcheck]
    rfl
  have hdecode : Theme.ofJson? badgeConfig = some badgeTheme := by
    cbv
  obtain ⟨hwarnings, hbuilt⟩ := Theme.warnings_dangling hv hvalid hdecode
  constructor
  · rw [hcheck] at hwarnings
    exact hwarnings
  · have hmem : ([.field "runes", .field "Hint", .field "structure", .field "badge",
        .field "condition"], ⟨badgeRune, badge, .condition "level"⟩) ∈ badgeTheme.dangling :=
      List.mem_cons_self
    exact (hbuilt _ hmem "level" rfl (by decide)).2.2

end Livery
