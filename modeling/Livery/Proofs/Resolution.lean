import Livery.Proofs.RootAttributes
import Livery.Proofs.Synthesis

/-!
# One value for each modifier

A modifier has one value in a component : what its source gives, else its default, and none if that
is empty or missing. `Rune.Resolves` says so of one modifier, and `Rune.Resolved` of all that a rune
declares, in order; there is just one list of values (`Rune.resolved_iff`).

The classes, the inline style, the synthesized elements with their gates, texts and attributes, and
the hook all see these values and no others (`Theme.Shows`). A style shows its value as it is, or in
the first place of a template (`Rune.Styles`).
-/

namespace Livery

open Text (nonEmpty?)

/-- Whether an element is a `meta` element for a property. -/
def Element.Carries (property : String) (c : Element) : Prop :=
  c.name = "meta" ∧ c.attr? "property" = some property

namespace Element

variable {e c : Element} {property : String}

/-- The `meta` child that is found for a property is the first one. -/
theorem findMeta?_eq_some_iff : e.findMeta? property = some c ↔ c.Carries property ∧
    ∃ before after, e.childElements = before ++ c :: after ∧
      ∀ b ∈ before, ¬ b.Carries property := by
  simp [findMeta?, List.find?_eq_some_iff_append, Carries, imp_iff_not_or]

theorem findMeta?_eq_none_iff :
    e.findMeta? property = none ↔ ∀ c ∈ e.childElements, ¬ c.Carries property := by
  simp [findMeta?, Carries]

end Element

namespace Rune

/-! ## The values of modifiers -/

/-- What a source gives for a modifier in an element, if anything. -/
inductive Gives (e : Element) (name : String) : ModifierSource → Option String → Prop
  /-- The first `meta` child for the modifier gives its content. -/
  | metaChild {before after : List Element} {c : Element}
      (hsplit : e.childElements = before ++ c :: after) (hc : c.Carries name)
      (hfirst : ∀ b ∈ before, ¬ b.Carries name) : Gives e name .metaChild (c.attr? "content")
  | noMetaChild (h : ∀ c ∈ e.childElements, ¬ c.Carries name) : Gives e name .metaChild none
  /-- An attribute gives its text. -/
  | own : Gives e name .attribute (e.attr? name)

/-- Whether a modifier has a value in an element : what its source gives, else its default, unless
that is empty. -/
def Resolves (e : Element) (name : String) (m : ModifierSpec) (value : String) : Prop :=
  ∃ given, Gives e name m.source given ∧ given.or m.default = some value ∧ value ≠ ""

/-- The declared modifiers that have a value in an element, in the order of declaration. -/
inductive Resolved (e : Element) : Entries ModifierSpec → Entries String → Prop
  | nil : Resolved e [] []
  | value {name value : String} {m : ModifierSpec} {l : Entries ModifierSpec} {l' : Entries String}
      (h : Resolves e name m value) (rest : Resolved e l l') :
      Resolved e ((name, m) :: l) ((name, value) :: l')
  | unresolved {name : String} {m : ModifierSpec} {l : Entries ModifierSpec} {l' : Entries String}
      (h : ∀ value, ¬ Resolves e name m value) (rest : Resolved e l l') :
      Resolved e ((name, m) :: l) l'

theorem gives_iff {e : Element} {name : String} {source : ModifierSource}
    {given : Option String} : Gives e name source given ↔ given = match source with
      | .metaChild => e.readMeta? name
      | .attribute => e.attr? name := by
  constructor
  · intro h
    cases h with
    | metaChild hsplit hc hfirst =>
      have hfind := Element.findMeta?_eq_some_iff.mpr ⟨hc, _, _, hsplit, hfirst⟩
      simp only [Element.readMeta?, hfind, Option.bind_some]
    | noMetaChild h =>
      simp only [Element.readMeta?, Element.findMeta?_eq_none_iff.mpr h, Option.bind_none]
    | own => rfl
  · rintro rfl
    cases source with
    | metaChild =>
      simp only [Element.readMeta?]
      cases hfind : e.findMeta? name with
      | some c =>
        obtain ⟨hc, before, after, hsplit, hfirst⟩ := Element.findMeta?_eq_some_iff.mp hfind
        exact .metaChild hsplit hc hfirst
      | none => exact .noMetaChild (Element.findMeta?_eq_none_iff.mp hfind)
    | _ => exact .own

theorem modifierValue?_eq_some_iff {e : Element} {name value : String} {m : ModifierSpec} :
    modifierValue? e name m = some value ↔ Resolves e name m value := by
  simp only [Resolves, gives_iff, exists_eq_left]
  rw [modifierValue?, nonEmpty?, Option.filter_eq_some_iff]
  exact and_congr Iff.rfl decide_eq_true_iff

/-- There is one list of values. -/
theorem resolved_iff {e : Element} : ∀ {l : Entries ModifierSpec} {l' : Entries String},
    Resolved e l l' ↔
      l' = l.filterMap fun p => (modifierValue? e p.1 p.2).map fun v => (p.1, v)
  | [], l' => by
    constructor
    · rintro ⟨⟩
      rfl
    · rintro rfl
      exact .nil
  | (name, m) :: l, l' => by
    rw [List.filterMap_cons]
    cases hm : modifierValue? e name m with
    | some value =>
      have hvalue := modifierValue?_eq_some_iff.mp hm
      constructor
      · rintro (_ | ⟨h, rest⟩ | ⟨h, rest⟩)
        · rw [← modifierValue?_eq_some_iff, hm, Option.some.injEq] at h
          rw [h, resolved_iff.mp rest]
          rfl
        · exact absurd hvalue (h value)
      · rintro rfl
        exact .value hvalue (resolved_iff.mpr rfl)
    | none =>
      have hnone : ∀ value, ¬ Resolves e name m value := by
        intro value h
        rw [← modifierValue?_eq_some_iff, hm] at h
        cases h
      constructor
      · rintro (_ | ⟨h, rest⟩ | ⟨h, rest⟩)
        · exact absurd h (hnone _)
        · exact resolved_iff.mp rest
      · rintro rfl
        exact .unresolved hnone (resolved_iff.mpr rfl)

/-! ## What the values show in -/

/-- No class is empty but the one that the author gave. -/
theorem classes_eq (t : Theme) (r : Rune) (modifiers : Dict String)
    (within authored : Option String) : r.classes (t.blockClass r) modifiers within authored =
      t.blockClass r ::
        (modifiers.values ++ (nonEmpty? (within.bind r.contextModifiers.get?)).toList ++
          r.staticModifiers).map (fun s => t.blockClass r ++ "--" ++ s) ++
        (nonEmpty? authored).toList := by
  have hblock : ∀ s, t.blockClass r ++ s ≠ "" := by
    intro s h
    simp [Theme.blockClass] at h
  have hall : ∀ c ∈ t.blockClass r :: (modifiers.values ++
      (nonEmpty? (within.bind r.contextModifiers.get?)).toList ++ r.staticModifiers).map
        (fun s => t.blockClass r ++ "--" ++ s), c ≠ "" := by
    intro c hc
    rcases List.mem_cons.mp hc with rfl | hc
    · simpa using hblock ""
    · obtain ⟨s, -, rfl⟩ := List.mem_map.mp hc
      rw [String.append_assoc]
      exact hblock _
  have hauthored : authored.toList.filter (fun c => decide (c ≠ "")) =
      (nonEmpty? authored).toList := by
    cases authored with
    | none => rfl
    | some c => by_cases hc : c = "" <;> simp [nonEmpty?, Option.filter, hc]
  rw [classes, contextSuffix?, List.filter_append, hauthored,
    List.filter_eq_self.mpr fun c hc => decide_eq_true (hall c hc)]

/-- There is an inline style if there is a part of one. -/
theorem intercalate_eq_empty_iff {separator : String} (hseparator : separator ≠ "") :
    ∀ {l : List String}, (∀ s ∈ l, s ≠ "") → (separator.intercalate l = "" ↔ l = [])
  | [], _ => by simp
  | [s], h => by simpa using h s List.mem_cons_self
  | s :: t :: rest, h => by simp [hseparator]

/-! ## Styles -/

/-- The place of a value in a template is an empty pair of braces. -/
def place : List Char := ['\x7b', '\x7d']

/-- What a template shows of a value : the value stands in the first place, if there is one, and the
rest of the template is kept. -/
inductive Fills (value : List Char) : List Char → List Char → Prop
  | first {before after : List Char} (h : ¬ place <:+: before) :
      Fills value (before ++ place ++ after) (before ++ value ++ after)
  | nowhere {text : List Char} (h : ¬ place <:+: text) : Fills value text text

theorem filled_cons {value : List Char} {c : Char} {rest : List Char}
    (h : ¬ place <+: c :: rest) : filled value (c :: rest) = c :: filled value rest := by
  refine filled.eq_2 value c rest fun after hc hrest => h ?_
  exact ⟨after, by rw [hc, hrest]; rfl⟩

/-- A place that reaches into a text in front of the next place is inside of this text. -/
theorem prefix_of_prefix_append {c : Char} {before after : List Char}
    (h : place <+: c :: (before ++ place ++ after)) : place <+: c :: before := by
  obtain ⟨rest, h⟩ := h
  cases before with
  | nil => simp [place] at h
  | cons d before =>
    obtain ⟨rfl, rfl, -⟩ : c = '\x7b' ∧ d = '\x7d' ∧ _ := by simpa [place, eq_comm] using h
    exact ⟨before, rfl⟩

theorem Fills.cons {value text shown : List Char} {c : Char} (hc : ¬ place <+: c :: text)
    (h : Fills value text shown) : Fills value (c :: text) (c :: shown) := by
  cases h with
  | @first before after h =>
    have hbefore : ¬ place <+: c :: before := fun hplace =>
      hc (hplace.trans ⟨place ++ after, by simp⟩)
    have hnone : ¬ place <:+: c :: before := mt List.infix_cons_iff.mp (not_or.mpr ⟨hbefore, h⟩)
    exact .first hnone
  | nowhere h => exact .nowhere (mt List.infix_cons_iff.mp (not_or.mpr ⟨hc, h⟩))

theorem filled_eq_of_fills {value text shown : List Char} (h : Fills value text shown) :
    filled value text = shown := by
  cases h with
  | @first before after h =>
    induction before with
    | nil => rfl
    | cons c before ih =>
      obtain ⟨hc, hbefore⟩ := not_or.mp (mt List.infix_cons_iff.mpr h)
      exact (filled_cons fun hplace => hc (prefix_of_prefix_append hplace)).trans
        (congrArg (c :: ·) (ih hbefore))
  | nowhere h =>
    induction text with
    | nil => rfl
    | cons c rest ih =>
      obtain ⟨hc, hrest⟩ := not_or.mp (mt List.infix_cons_iff.mpr h)
      rw [filled_cons hc, ih hrest]

theorem fills_filled (value text : List Char) : Fills value text (filled value text) := by
  fun_induction filled value text with
  | case1 after => exact @Fills.first value [] after (by decide)
  | case2 c rest hplace ih =>
    refine ih.cons ?_
    rintro ⟨after, h⟩
    obtain ⟨rfl, rfl⟩ := List.cons.inj h
    exact hplace after rfl rfl
  | case3 => exact .nowhere (by decide)

/-- What the inline style shows of a value. -/
inductive Styles (value : String) : StyleSpec → String → Prop
  /-- A property shows it as it is. -/
  | property (name : String) : Styles value (.property name) (name ++ ": " ++ value)
  /-- A template shows it in its first place. -/
  | template (name : String) {text shown : String}
      (h : Fills value.toList text.toList shown.toList) :
      Styles value (.template name text) (name ++ ": " ++ shown)

theorem styles_iff {value part : String} {spec : StyleSpec} :
    Styles value spec part ↔ stylePart value spec = part := by
  constructor
  · rintro (name | ⟨name, h⟩)
    · rfl
    · rw [stylePart, filled_eq_of_fills h, String.ofList_toList]
  · rintro rfl
    cases spec with
    | property name => exact .property name
    | template name text =>
      refine .template name ?_
      rw [String.toList_ofList]
      exact fills_filled value.toList text.toList

/-- The values with their styles, in the order of the styles, give the parts of the inline style. -/
theorem forall₂_styles (r : Rune) (modifiers : Dict String) :
    List.Forall₂ (fun p => Styles p.1 p.2)
      (r.styles.entries.filterMap fun p => (modifiers.get? p.1).map fun value => (value, p.2))
      (r.styles.entries.filterMap fun p =>
        (modifiers.get? p.1).map fun value => stylePart value p.2) := by
  have hparts : (r.styles.entries.filterMap fun p =>
      (modifiers.get? p.1).map fun value => stylePart value p.2) =
        (r.styles.entries.filterMap fun p =>
          (modifiers.get? p.1).map fun value => (value, p.2)).map fun p => stylePart p.1 p.2 := by
    simp only [List.map_filterMap, Option.map_map, Function.comp_def]
  rw [hparts]
  exact List.forall₂_map_right_iff.mpr (List.forall₂_same.mpr fun p _ => styles_iff.mpr rfl)

end Rune

/-- What the element of an entry shows of modifier values. -/
structure StructureEntry.Reads (modifiers : Dict String) (d : StructureEntry) (y : Element) :
    Prop where
  /-- The entry has its element only if the modifier that it asks for has a value. -/
  condition : ∀ name, d.condition = some name → name ≠ "" →
    ∃ value, modifiers.get? name = some value
  /-- The entry has its element only if one of the modifiers that it asks for has a value. -/
  conditionAny : ∀ names, d.conditionAny = some names →
    ∃ name ∈ names, ∃ value, modifiers.get? name = some value
  /-- An attribute shows the value of its modifier. -/
  attr : ∀ key name, d.attrs.get? key = some (.fromModifier name) →
    y.attr? key = some ((modifiers.get? name).getD "")
  /-- A text shows the value of its modifier. -/
  text : ∀ name, d.content = .value name →
    y.children = [.text (d.textPrefix.getD "" ++
      (d.transform.elim id TextTransform.apply) ((modifiers.get? name).getD "") ++
        d.textSuffix.getD "")]

/--
What a component shows of modifier values : the element `root` is all that dressing makes of it, up
to its hook.
-/
structure Theme.Shows (t : Theme) (type : String) (r : Rune) (within : Option String) (e : Element)
    (modifiers : Dict String) (root : Element) : Prop where
  /-- The classes are the block class, those of the values, of the enclosing component and of the
  rune, and the authored ones. -/
  classes : root.attr? "class" = (r.rootAttributes.get? "class").or (some (" ".intercalate
    ((t.classPrefix ++ "-" ++ r.block) ::
      (modifiers.values ++ (nonEmpty? (within.bind r.contextModifiers.get?)).toList ++
        r.staticModifiers).map (fun s => t.classPrefix ++ "-" ++ r.block ++ "--" ++ s) ++
      (nonEmpty? (e.attr? "class")).toList)))
  /-- The parts of the inline style are the element's own and those of the styles whose modifier has
  a value, in the order of the styles, each with that value. -/
  style : ∃ own parts, own = (nonEmpty? (e.attr? "style")).toList ∧
    List.Forall₂ (fun p => Rune.Styles p.1 p.2)
      (r.styles.entries.filterMap fun p => (modifiers.get? p.1).map fun value => (value, p.2))
      parts ∧
    root.attr? "style" = if own ++ parts = [] then
      (r.rootAttributes.get? "style").or (e.attr? "style")
      else some ("; ".intercalate (own ++ parts))
  /-- The elements synthesized from the values are walked with the children. -/
  children : ∃ walked, List.Forall₂ (t.Yields (some type))
      ((r.synthesized modifiers true ++ r.wrapped (e.children.map r.labelled) ++
        r.synthesized modifiers false).map (t.marked (t.blockClass r))) walked ∧
    root.children = walked.filter fun n => !r.consumes n
  /-- These elements, and all inside of them, are made by the entries of the rune. -/
  made : ∀ before y, (∃ n ∈ r.synthesized modifiers before, y ∈ n.elements) ↔
    ∃ p ∈ r.scaffold.entries, p.2.before = before ∧
      ∃ d, StructureEntry.Makes modifiers p.2 p.1 d y
  /-- An entry of any depth makes elements that go by the values. -/
  reads : ∀ p ∈ r.scaffold.entries, ∀ d y, StructureEntry.Makes modifiers p.2 p.1 d y →
    d.Reads modifiers y

namespace StructureEntry

/-- What an entry makes goes by the values. -/
theorem Makes.reads {modifiers : Dict String} {e d : StructureEntry} {name : String} {y : Element}
    (h : Makes modifiers e name d y) : d.Reads modifiers y := by
  obtain ⟨label, hbuild⟩ := h.exists_build
  obtain ⟨hopen, rfl⟩ := build_eq_some_iff.mp hbuild
  have hsome : ∀ key, hasValue modifiers key = true → ∃ value, modifiers.get? key = some value := by
    intro key hkey
    obtain ⟨value, hvalue, -⟩ := hasValue_iff.mp hkey
    exact ⟨value, hvalue⟩
  constructor
  · exact fun key hkey hne => hsome key (hopen.condition key hkey hne)
  · intro keys hkeys
    obtain ⟨key, hmem, hkey⟩ := hopen.conditionAny keys hkeys
    exact ⟨key, hmem, hsome key hkey⟩
  · intro key source hsource
    rw [Element.attr?, builtAttrs, Dict.get?_extend_entries, Dict.get?_mapValues, hsource]
    rfl
  · intro key hcontent
    rw [contentNodes, hcontent]
    dsimp only [builtText]
    cases d.transform <;> rfl

end StructureEntry

namespace Rune

/-- What is synthesized for a component, with all inside of it, is made by entries of its rune. -/
theorem mem_elements_synthesized_iff {r : Rune} {modifiers : Dict String} {before : Bool}
    {y : Element} : (∃ n ∈ r.synthesized modifiers before, y ∈ n.elements) ↔
      ∃ p ∈ r.scaffold.entries, p.2.before = before ∧
        ∃ d, StructureEntry.Makes modifiers p.2 p.1 d y := by
  simp only [← StructureEntry.mem_elements_build_iff, synthesized_eq, List.mem_filterMap]
  constructor
  · rintro ⟨n, ⟨p, hp, hn⟩, hy⟩
    rw [scaffoldNode?] at hn
    split at hn
    · rename_i hbefore
      obtain ⟨x, hx, rfl⟩ := Option.map_eq_some_iff.mp hn
      exact ⟨p, hp, hbefore, x, hx, hy⟩
    · cases hn
  · rintro ⟨p, hp, hbefore, x, hx, hy⟩
    exact ⟨.element x, ⟨p, hp, by rw [scaffoldNode?, if_pos hbefore, hx, Option.map_some]⟩, hy⟩

/-- The inline style of a root. -/
theorem get?_style_rootAttrs (r : Rune) (type block : String) (within : Option String)
    (e : Element) : (r.rootAttrs type block within e).get? "style" =
      if r.style e (r.resolve e) = "" then (r.rootAttributes.get? "style").or (e.attr? "style")
      else some (r.style e (r.resolve e)) := by
  rw [get?_rootAttrs, lastValue?_eq_none (by decide), if_neg (by decide : "style" ≠ "data-rune"),
    if_neg (by decide : "style" ≠ "class"), Option.none_or, Option.none_or, Option.none_or]
  by_cases h : r.style e (r.resolve e) = ""
  · rw [if_pos h, if_neg (fun hstyle => hstyle.2 h), Option.none_or, Element.attr?]
  · rw [if_neg h, if_pos ⟨rfl, h⟩, Option.some_or]

theorem style_eq_empty_iff (r : Rune) (e : Element) (modifiers : Dict String) :
    r.style e modifiers = "" ↔ (nonEmpty? (e.attr? "style")).toList ++
      (r.styles.entries.filterMap fun p =>
        (modifiers.get? p.1).map fun value => stylePart value p.2) = [] := by
  refine intercalate_eq_empty_iff (by decide) fun s hs => ?_
  rcases List.mem_append.mp hs with hs | hs
  · rw [Option.mem_toList, nonEmpty?, Option.filter_eq_some_iff] at hs
    exact of_decide_eq_true hs.2
  · obtain ⟨p, -, hp⟩ := List.mem_filterMap.mp hs
    obtain ⟨value, -, rfl⟩ := Option.map_eq_some_iff.mp hp
    cases p.2 <;> simp [stylePart]

end Rune

/--
Every modifier has one value in a component, and all that dressing reads of modifiers is that value.
The values are listed in the order of declaration, for the modifiers that have one. The classes, the
inline style and the synthesized elements show them, and the hook gets the list itself.
-/
theorem Theme.one_value {t : Theme} {within : Option String} {e : Element} {type : String}
    {r : Rune} {out : Node} (he : t.runeOf? e = some (type, r))
    (h : t.Yields within (.element e) out) :
    ∃ modifiers : Dict String,
      (∀ l, Rune.Resolved e r.modifiers.entries l ↔ l = modifiers.entries) ∧
      ∃ root, t.Shows type r within e modifiers root ∧
        out = .element (r.hook.elim root fun hook => hook root ⟨modifiers, within⟩) := by
  obtain ⟨walked, hwalked, rfl⟩ := (yields_component he).mp h
  refine ⟨r.resolve e, fun l => by rw [Rune.resolved_iff, Rune.entries_resolve],
    ⟨e.name, r.rootAttrs type (t.blockClass r) within e, walked.filter fun n => !r.consumes n⟩,
    ?shows, ?hook⟩
  case hook =>
    rw [dressed]
    cases r.hook <;> rfl
  case shows =>
    constructor
    case classes =>
      rw [Element.attr?, Rune.get?_rootAttrs, Rune.classes_eq,
        if_neg (fun hstyle => absurd hstyle.1 (by decide)), if_pos rfl, Option.none_or]
      rfl
    case style =>
      refine ⟨_, _, rfl, r.forall₂_styles (r.resolve e), ?_⟩
      rw [Element.attr?, Rune.get?_style_rootAttrs]
      simp only [Rune.style_eq_empty_iff]
      rfl
    case children => exact ⟨walked, hwalked, rfl⟩
    case made => exact fun _ _ => Rune.mem_elements_synthesized_iff
    case reads => exact fun _ _ _ _ hd => hd.reads

/-- How a lesson is dressed : its values come from all sources, one of them stands in a template,
and a hook shows them. -/
def lessonRune : Rune where
  block := "lesson"
  modifiers := .ofList
    [("level", {}), ("size", { source := .attribute, default := some "wide" }),
     ("note", { default := some "new" }), ("time", { default := some "20m" })]
  contextModifiers := .ofList [("Course", "in-course")]
  staticModifiers := ["plain"]
  scaffold := .ofList [("header",
    { tag := "header"
      before := true
      conditionAny := some ["note", "time"]
      children :=
        [.entry { tag := "b", condition := some "note" },
         .entry { tag := "em", condition := some "level", metaText := some "level" }] })]
  styles := .ofList
    [("note", .property "--note"), ("size", .template "grid-area" "\x7b\x7d / a\x7b\x7d"),
     ("level", .property "--level")]
  hook := some fun e context =>
    e.withAttr "data-values" (" ".intercalate context.modifiers.values)

/-- A theme with lessons. -/
def lessonTheme : Theme where
  classPrefix := "rf"
  runes := .ofList [("Lesson", lessonRune)]

/-- A `meta` child for a property. -/
def lessonMeta (property content : String) : Node :=
  .element ⟨"meta", .ofList [("property", property), ("content", content)], []⟩

/-- A lesson with two levels and an empty note. -/
def lesson : Element where
  name := "section"
  attrs := .ofList [("typeof", "Lesson"), ("class", "intro")]
  children := [lessonMeta "level" "hard", lessonMeta "level" "easy", lessonMeta "note" "",
    .text "a"]

/-- The header of the lesson : it has the first level, and no note. -/
def lessonHeader : Node :=
  .element ⟨"header", .ofList [("data-name", "header"), ("class", "rf-lesson__header")],
    [.element ⟨"em", .ofList [("data-name", "")], [.text "hard"]⟩]⟩

/-- The lesson, dressed up to its hook. -/
def lessonRoot : Element where
  name := "section"
  attrs := .ofList
    [("typeof", "Lesson"),
     ("class", "rf-lesson rf-lesson--hard rf-lesson--wide rf-lesson--20m " ++
       "rf-lesson--in-course rf-lesson--plain intro"),
     ("data-level", "hard"), ("data-size", "wide"), ("data-time", "20m"), ("data-rune", "lesson"),
     ("style", "grid-area: wide / a\x7b\x7d; --level: hard")]
  children := [lessonHeader, .text "a"]

theorem one_value_lesson :
    lessonTheme.runeOf? lesson = some ("Lesson", lessonRune) ∧
    lessonTheme.Yields (some "Course") (.element lesson)
      (.element (lessonRoot.withAttr "data-values" "hard wide 20m")) ∧
    ∃ modifiers : Dict String,
      modifiers.entries = [("level", "hard"), ("size", "wide"), ("time", "20m")] ∧
      Rune.Resolved lesson lessonRune.modifiers.entries modifiers.entries ∧
      ∃ root, lessonTheme.Shows "Lesson" lessonRune (some "Course") lesson modifiers root ∧
        Node.element (lessonRoot.withAttr "data-values" "hard wide 20m") =
          .element (root.withAttr "data-values" (" ".intercalate modifiers.values)) := by
  have he : lessonTheme.runeOf? lesson = some ("Lesson", lessonRune) := rfl
  have hvalues : lessonRune.modifiers.entries.filterMap (fun p =>
      (Rune.modifierValue? lesson p.1 p.2).map fun v => (p.1, v)) =
        [("level", "hard"), ("size", "wide"), ("time", "20m")] := by cbv
  have hattrs : lessonRune.rootAttrs "Lesson" (lessonTheme.blockClass lessonRune) (some "Course")
      lesson = lessonRoot.attrs := by decide +kernel
  have hwalked : List.Forall₂ (lessonTheme.Yields (some "Lesson"))
      (lessonTheme.prepared lessonRune lesson)
      [lessonHeader, lessonMeta "level" "hard", lessonMeta "level" "easy", lessonMeta "note" "",
        .text "a"] :=
    .cons ⟨3, by cbv⟩ (.cons ⟨2, by cbv⟩ (.cons ⟨2, by cbv⟩ (.cons ⟨2, by cbv⟩
      (.cons ⟨1, by cbv⟩ .nil))))
  have hdressed : lessonRoot.withAttr "data-values" "hard wide 20m" =
      lessonTheme.dressed "Lesson" lessonRune (some "Course") lesson
        [lessonHeader, lessonMeta "level" "hard", lessonMeta "level" "easy", lessonMeta "note" "",
          .text "a"] := by
    rw [Theme.dressed, hattrs]
    rfl
  have hy : lessonTheme.Yields (some "Course") (.element lesson)
      (.element (lessonRoot.withAttr "data-values" "hard wide 20m")) :=
    (Theme.yields_component he).mpr ⟨_, hwalked, congrArg Node.element hdressed⟩
  obtain ⟨modifiers, hmodifiers, root, hshows, hout⟩ := Theme.one_value he hy
  have hresolved := (hmodifiers _).mpr rfl
  exact ⟨he, hy, modifiers, (Rune.resolved_iff.mp hresolved).trans hvalues, hresolved, root,
    hshows, hout⟩

end Livery
