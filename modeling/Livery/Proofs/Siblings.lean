import Livery.Check.Layout
import Livery.Check.Report
import Livery.Check.Theme

/-!
# Siblings in a configuration

The runes of a theme are checked one after another, and so are the slots of a layout. What the check
of one of them looks at besides it is declared in other fields : the icon groups of the theme, the
fragments and widgets of the layout. So what is reported with some runes is what is reported without
any, and then the share of each rune, which is what it reports when it is the only one
(`Independent`).

A field that is set changes nothing for the checks of the other fields (`given_put_of_ne` and its
like). With that the findings of a theme fall apart into those outside the runes and those of each
rune (`theme_put_runes`), and those of a layout into those outside the slots and those of each slot
(`layout_put_slots`).
-/

namespace Livery

namespace Entries

variable {α : Type}

/-- Setting a key to the value that it has changes nothing. -/
theorem put_self {key : String} {value : α} : ∀ {l : Entries α}, l.lookup key = some value →
    l.put key value = l
  | [], h => by cases h
  | (k, v) :: rest, h => by
    rw [List.lookup_cons] at h
    by_cases hk : k = key
    · rw [hk, beq_self_eq_true, Option.some.injEq] at h
      rw [put, if_pos hk, h]
    · rw [beq_false_of_ne (Ne.symm hk)] at h
      rw [put, if_neg hk, put_self h]

end Entries

namespace Report

theorem diagnostics_append (l l' : List Finding) (severity : Severity) :
    (mk (l ++ l')).diagnostics severity =
      (mk l).diagnostics severity ++ (mk l').diagnostics severity := by
  simp [diagnostics]

theorem diagnostics_flatMap {α : Type} (f : α → List Finding) (severity : Severity) :
    ∀ l : List α, (mk (l.flatMap f)).diagnostics severity =
      l.flatMap fun a => (mk (f a)).diagnostics severity
  | [] => rfl
  | a :: l => by
    rw [List.flatMap_cons, List.flatMap_cons, diagnostics_append, diagnostics_flatMap f severity l]

end Report

namespace Check

/-! ## Independence -/

/-- What an entry adds to the diagnostics when it is the only one, where `report` gives the
diagnostics for the entries that are there. -/
def share (report : Entries Json → List Diagnostic) (entry : String × Json) : List Diagnostic :=
  (report [entry]).drop (report []).length

/-- Each entry has its share of the diagnostics, whatever entries stand beside it. -/
structure Independent (report : Entries Json → List Diagnostic) : Prop where
  /-- An entry alone adds its share to what is reported without entries. -/
  alone : ∀ entry, report [entry] = report [] ++ share report entry
  /-- Behind what is reported without entries come the shares, in the order of the entries. -/
  together : ∀ entries, report entries = report [] ++ entries.flatMap (share report)
  /-- What is reported for the entries before and after one stays the same if that one is changed
  or left out. -/
  beside : ∀ before after, ∃ front back, report (before ++ after) = front ++ back ∧
    ∀ entry, report (before ++ entry :: after) = front ++ share report entry ++ back

/-- Entries that are checked one after another are independent. -/
theorem independent_of_flatMap {report : Entries Json → List Diagnostic} {front : List Diagnostic}
    {f : String × Json → List Diagnostic}
    (h : ∀ entries, report entries = front ++ entries.flatMap f) :
    Independent report := by
  have hnone : report [] = front := (h []).trans (List.append_nil front)
  have hshare : share report = f := by
    funext entry
    rw [share, hnone, h [entry], List.drop_left, List.flatMap_singleton]
  constructor
  · intro entry
    rw [hnone, hshare, h, List.flatMap_singleton]
  · intro entries
    rw [hnone, hshare, h]
  · intro before after
    refine ⟨front ++ before.flatMap f, after.flatMap f, ?_, fun entry => ?_⟩
    · rw [h, List.flatMap_append, List.append_assoc]
    · rw [h, hshare, List.flatMap_append, List.flatMap_cons, List.append_assoc, List.append_assoc]

/-- What a check reports of an object with some entries in one of its fields. -/
def reported (check : Json → List Finding) (fields : Entries Json) (key : String)
    (severity : Severity) (entries : Entries Json) : List Diagnostic :=
  (Report.mk (check (.obj (fields.put key (.obj entries))))).diagnostics severity

/-- If the findings of an object are those of each entry of a field behind some others, then the
entries are independent, and what is reported are their shares. -/
theorem independent_reported {check : Json → List Finding} {fields : Entries Json} {key : String}
    {front : List Finding} {f : String × Json → List Finding}
    (h : ∀ entries, check (.obj (fields.put key (.obj entries))) = front ++ entries.flatMap f)
    {entries : Entries Json} (hentries : fields.lookup key = some (.obj entries))
    (severity : Severity) :
    (Report.mk (check (.obj fields))).diagnostics severity =
        reported check fields key severity [] ++
          entries.flatMap (share (reported check fields key severity)) ∧
      Independent (reported check fields key severity) := by
  have hflat : ∀ l, reported check fields key severity l = (Report.mk front).diagnostics severity ++
      l.flatMap fun entry => (Report.mk (f entry)).diagnostics severity := by
    intro l
    rw [reported, h, Report.diagnostics_append, Report.diagnostics_flatMap]
  have hindependent := independent_of_flatMap hflat
  refine ⟨?_, hindependent⟩
  rw [← hindependent.together, reported, Entries.put_self hentries]

/-! ## Fields that are set -/

section

variable {fields : Entries Json} {key other : String}

theorem field_put_of_ne (h : other ≠ key) (v : Json) (check : Option Json → List Finding) :
    field (fields.put key v) other check = field fields other check := by
  rw [field, field, Entries.lookup_put, if_neg h]

theorem given_put_of_ne (h : other ≠ key) (v : Json) (check : Json → List Finding) :
    given (fields.put key v) other check = given fields other check := by
  rw [given, given, Entries.lookup_put, if_neg h]

theorem declared_put_of_ne (h : other ≠ key) (v : Json) :
    declared (fields.put key v) other = declared fields other := by
  rw [declared, declared, Entries.lookup_put, if_neg h]

theorem given_put_self (v : Json) (check : Json → List Finding) :
    given (fields.put key v) key check = inside (.field key) (check v) := by
  rw [given, Entries.lookup_put, if_pos rfl]

/-- A field that is set is there. -/
theorem present_put_self (v : Json) :
    field (fields.put key v) key (demand .present) = [] := by
  rw [field, Entries.lookup_put, if_pos rfl]
  rfl

theorem inside_eachField (s : Step) (check : Json → List Finding) (entries : Entries Json) :
    inside s (eachField check entries) =
      entries.flatMap fun p => inside s (inside (.field p.1) (check p.2)) := by
  rw [eachField, inside, List.map_flatMap]
  rfl

end

/-! ## Runes and slots -/

/-- The findings of a theme outside its runes. -/
def outsideRunes (fields : Entries Json) : List Finding :=
  field fields "prefix" (demand .nonEmptyText) ++
  field fields "tokenPrefix" (demand .nonEmptyText) ++
  given fields "icons" (object .object (eachField iconVariants))

/-- The findings of a theme are those outside its runes, and then those of each rune. -/
theorem theme_put_runes (fields runes : Entries Json) :
    theme (.obj (fields.put "runes" (.obj runes))) = outsideRunes fields ++ runes.flatMap fun p =>
      inside (.field "runes") (inside (.field p.1) (rune (declared fields "icons") p.2)) := by
  have hne : "prefix" ≠ "runes" ∧ "tokenPrefix" ≠ "runes" ∧ "icons" ≠ "runes" := by decide
  rw [theme, object, field_put_of_ne hne.1, field_put_of_ne hne.2.1, given_put_of_ne hne.2.2,
    declared_put_of_ne hne.2.2, present_put_self, given_put_self, object, inside_eachField,
    List.append_nil, outsideRunes]

/-- The findings of a layout outside its slots. -/
def outsideSlots (fields : Entries Json) : List Finding :=
  requiredText fields "block" ++
  givenText fields "tag" ++
  given fields "behaviors" (fun v => demand .textArray (some v)) ++
  given fields "chrome" (object .object (eachField chromeEntry)) ++
  given fields "computed" (object .object (eachField widget))

/-- The findings of a layout are those outside its slots, and then those of each slot. -/
theorem layout_put_slots (fields slots : Entries Json) :
    layout (.obj (fields.put "slots" (.obj slots))) = outsideSlots fields ++ slots.flatMap fun p =>
      inside (.field "slots") (inside (.field p.1)
        (slot ⟨declared fields "chrome", declared fields "computed"⟩ p.2)) := by
  have hne : "block" ≠ "slots" ∧ "tag" ≠ "slots" ∧ "behaviors" ≠ "slots" ∧ "chrome" ≠ "slots" ∧
      "computed" ≠ "slots" := by decide
  obtain ⟨hblock, htag, hbehaviors, hchrome, hcomputed⟩ := hne
  simp only [layout, object, requiredText, givenText, field_put_of_ne hblock, given_put_of_ne htag,
    given_put_of_ne hbehaviors, given_put_of_ne hchrome, given_put_of_ne hcomputed,
    declared_put_of_ne hchrome, declared_put_of_ne hcomputed, present_put_self, given_put_self,
    inside_eachField, List.append_nil, outsideSlots]

/--
The errors of a theme with runes are those of the theme with no runes, and then what each rune
reports when it is the only one, in declaration order; so are the warnings. The same holds of a
layout and its slots. No rune or slot hides, adds or changes a diagnostic of another one.
-/
theorem siblings_independent (severity : Severity) :
    (∀ fields runes : Entries Json, fields.lookup "runes" = some (.obj runes) →
      (Report.mk (theme (.obj fields))).diagnostics severity =
          reported theme fields "runes" severity [] ++
            runes.flatMap (share (reported theme fields "runes" severity)) ∧
        Independent (reported theme fields "runes" severity)) ∧
    ∀ fields slots : Entries Json, fields.lookup "slots" = some (.obj slots) →
      (Report.mk (layout (.obj fields))).diagnostics severity =
          reported layout fields "slots" severity [] ++
            slots.flatMap (share (reported layout fields "slots" severity)) ∧
        Independent (reported layout fields "slots" severity) :=
  ⟨fun fields _ h => independent_reported (theme_put_runes fields) h severity,
    fun fields _ h => independent_reported (layout_put_slots fields) h severity⟩

end Check

/-- Runes of which the first one is no object, and the second one has an icon of an unknown
group. -/
def mixedRunes : Entries Json :=
  [("Hint", .null),
   ("Card", .obj [("block", .str "card"), ("structure", .obj [("mark", .obj [("tag", .str "span"),
     ("icon", .obj [("group", .str "card"), ("variant", .str "plain")])])])])]

/-- A theme with these runes. -/
def mixedTheme : Entries Json :=
  [("prefix", .str "rf"), ("runes", .obj mixedRunes), ("tokenPrefix", .str "--rf")]

/-- Slots of which the first one refers to an unknown fragment, and the second one has no tag. -/
def mixedSlots : Entries Json :=
  [("top", .obj [("tag", .str "header"), ("source", .str "chrome:title")]), ("main", .obj [])]

/-- A layout with these slots. -/
def mixedLayout : Entries Json := [("block", .str "docs"), ("slots", .obj mixedSlots)]

namespace Check

/-- The rune that is no object does not hide the icon of the other one, and the slot without a tag
does not hide the reference of the other one. -/
theorem siblings_independent_mixed :
    mixedTheme.lookup "runes" = some (.obj mixedRunes) ∧
    mixedLayout.lookup "slots" = some (.obj mixedSlots) ∧
    (Report.mk (theme (.obj mixedTheme))).warnings.map Diagnostic.path =
      ["runes.Card.structure.mark.icon.group"] ∧
    (Report.mk (layout (.obj mixedLayout))).warnings.map Diagnostic.path =
      ["slots.top.source"] := by
  have htheme : mixedTheme.lookup "runes" = some (.obj mixedRunes) := rfl
  have hlayout : mixedLayout.lookup "slots" = some (.obj mixedSlots) := rfl
  obtain ⟨hrunes, -⟩ := (siblings_independent .warning).1 mixedTheme mixedRunes htheme
  obtain ⟨hslots, -⟩ := (siblings_independent .warning).2 mixedLayout mixedSlots hlayout
  refine ⟨htheme, hlayout, ?_, ?_⟩
  · rw [Report.warnings, hrunes]
    decide
  · rw [Report.warnings, hslots]
    decide

end Check

end Livery
