import Livery.Proofs.Texts

/-!
# Synthesis

What an entry of a theme makes of modifier values. `StructureEntry.build_eq_some_iff` says all that
building one entry does : its gates are open (`StructureEntry.Opens`), and its content is one of
three kinds (`StructureEntry.content`). `StructureEntry.Makes` follows the entries nested in an
entry down to the elements inside of what it builds, and misses none of these.

More values never take anything away. Gates that are open stay open (`Opens.mono`), so what an entry
builds grows with the values (`StructureEntry.Grows`) : it keeps its tag and its attribute keys, and
inside of it each nested entry that has made an element still makes one, in its old place among the
others.
-/

namespace Livery

open Text (nonEmpty?)

/-! ## Lists that widen -/

/--
Two lists made from the items of one list, in order, the second by a function that makes something
of at least the same items; what the two make of one item is in relation `R`.
-/
inductive Widens {α β : Type} (f g : α → Option β) (R : α → β → β → Prop) :
    List α → List β → List β → Prop
  | nil : Widens f g R [] [] []
  /-- Both make something of the item. -/
  | kept {a : α} {b b' : β} {l : List α} {m m' : List β} (hf : f a = some b) (hg : g a = some b')
      (h : R a b b') (rest : Widens f g R l m m') : Widens f g R (a :: l) (b :: m) (b' :: m')
  /-- Only the second makes something of the item. -/
  | added {a : α} {b' : β} {l : List α} {m m' : List β} (hf : f a = none) (hg : g a = some b')
      (rest : Widens f g R l m m') : Widens f g R (a :: l) m (b' :: m')
  /-- Neither makes anything of the item. -/
  | absent {a : α} {l : List α} {m m' : List β} (hf : f a = none) (hg : g a = none)
      (rest : Widens f g R l m m') : Widens f g R (a :: l) m m'

theorem widens_filterMap {α β : Type} {f g : α → Option β} {R : α → β → β → Prop} :
    ∀ {l : List α}, (∀ a ∈ l, ∀ b, f a = some b → ∃ b', g a = some b' ∧ R a b b') →
      Widens f g R l (l.filterMap f) (l.filterMap g)
  | [], _ => .nil
  | a :: l, h => by
    have hrest := widens_filterMap fun b hb => h b (List.mem_cons_of_mem _ hb)
    cases hf : f a with
    | some b =>
      obtain ⟨b', hg, hR⟩ := h a List.mem_cons_self b hf
      rw [List.filterMap_cons_some hf, List.filterMap_cons_some hg]
      exact .kept hf hg hR hrest
    | none =>
      rw [List.filterMap_cons_none hf]
      cases hg : g a with
      | some b' =>
        rw [List.filterMap_cons_some hg]
        exact .added hf hg hrest
      | none =>
        rw [List.filterMap_cons_none hg]
        exact .absent hf hg hrest

namespace StructureEntry

variable {modifiers more : Dict String}

/-! ## Gates -/

theorem hasValue_iff {name : String} :
    hasValue modifiers name = true ↔ ∃ value, modifiers.get? name = some value ∧ value ≠ "" := by
  simp only [hasValue, nonEmpty?, Option.isSome_iff_exists, Option.filter_eq_some_iff,
    decide_eq_true_eq]

/-- Whether the gates of an entry are open under some modifier values. -/
structure Opens (modifiers : Dict String) (e : StructureEntry) : Prop where
  /-- The modifier that has to have a value has one. -/
  condition : ∀ name, e.condition = some name → name ≠ "" → hasValue modifiers name = true
  /-- One of the modifiers of which one has to have a value has one. -/
  conditionAny : ∀ names, e.conditionAny = some names →
    ∃ name ∈ names, hasValue modifiers name = true

theorem admits_iff {e : StructureEntry} : e.admits modifiers = true ↔ e.Opens modifiers := by
  rw [admits, Bool.and_eq_true]
  refine (and_congr ?condition ?conditionAny).trans
    ⟨fun h => ⟨h.1, h.2⟩, fun h => ⟨h.condition, h.conditionAny⟩⟩
  case condition =>
    cases e.condition with
    | none => simp [nonEmpty?]
    | some name => by_cases hname : name = "" <;> simp [nonEmpty?, Option.filter, hname]
  case conditionAny => cases e.conditionAny <;> simp

/-- Gates that are open stay open under more values. -/
theorem Opens.mono (hmore : ∀ name value, modifiers.get? name = some value →
    more.get? name = some value) {e : StructureEntry} (h : e.Opens modifiers) : e.Opens more := by
  have hvalue : ∀ name, hasValue modifiers name = true → hasValue more name = true := by
    intro name hname
    obtain ⟨value, hget, hne⟩ := hasValue_iff.mp hname
    exact hasValue_iff.mpr ⟨value, hmore name value hget, hne⟩
  constructor
  · exact fun name hname hne => hvalue name (h.condition name hname hne)
  · intro names hnames
    obtain ⟨name, hmem, hname⟩ := h.conditionAny names hnames
    exact ⟨name, hmem, hvalue name hname⟩

/-! ## Building an entry -/

/-- What an entry puts inside of its element. -/
inductive Content
  /-- Nothing, for the icon comes from styling. -/
  | icon
  /-- The value of a modifier, as text. -/
  | value (name : String)
  | children
deriving DecidableEq

/-- What an entry puts inside of its element : an earlier kind hides the later ones. -/
def content (e : StructureEntry) : Content :=
  match e.icon, nonEmpty? e.metaText with
  | some _, _ => .icon
  | none, some name => .value name
  | none, none => .children

/-- The node that a child of an entry makes, if any. -/
def childNode? (modifiers : Dict String) : StructureChild → Option Node
  | .text s => some (.text s)
  | .entry c => (c.build modifiers (c.label.getD "")).map .element

/-- The nodes inside of a built element. -/
def contentNodes (modifiers : Dict String) (e : StructureEntry) : List Node :=
  match e.content with
  | .icon => []
  | .value name => [.text (e.builtText modifiers name)]
  | .children => e.children.filterMap (childNode? modifiers)

theorem buildAll_eq (modifiers : Dict String) :
    ∀ l : List StructureChild, buildAll modifiers l = l.filterMap (childNode? modifiers)
  | [] => rfl
  | .text s :: rest => by
    rw [buildAll, buildAll_eq modifiers rest, List.filterMap_cons, childNode?]
  | .entry c :: rest => by
    rw [buildAll, buildAll_eq modifiers rest, List.filterMap_cons, childNode?]
    cases c.build modifiers (c.label.getD "") <;> rfl

/-- Building an entry. -/
theorem build_eq_some_iff {e : StructureEntry} {name : String} {x : Element} :
    e.build modifiers name = some x ↔
      e.Opens modifiers ∧ x = ⟨e.tag, e.builtAttrs modifiers name, e.contentNodes modifiers⟩ := by
  have hbuild : e.build modifiers name = if e.admits modifiers then
      some ⟨e.tag, e.builtAttrs modifiers name, e.contentNodes modifiers⟩ else none := by
    obtain ⟨tag, label, before, condition, conditionAny, icon, metaText, transform, textPrefix,
      textSuffix, attrs, children⟩ := e
    unfold build
    congr 2
    rw [buildAll_eq, contentNodes, content]
    cases icon with
    | some i => rfl
    | none => cases nonEmpty? metaText <;> rfl
  rw [hbuild, ← admits_iff]
  cases e.admits modifiers <;> simp [eq_comm]

/-- The attribute keys of a built element do not depend on modifier values. -/
theorem keys_builtAttrs (modifiers more : Dict String) (e : StructureEntry) (name : String) :
    (e.builtAttrs more name).keys = (e.builtAttrs modifiers name).keys := by
  have hkeys : ∀ values : Dict String,
      Entries.keys (e.attrs.mapValues fun _ v => attrValue values v).entries = e.attrs.keys :=
    fun values => Entries.keys_mapValues (fun _ v => attrValue values v) e.attrs.entries
  rw [builtAttrs, builtAttrs, Dict.keys_extend, Dict.keys_extend, hkeys, hkeys]

/-! ## The entries behind elements -/

/--
An entry declared under a name makes an element, and so it or an entry nested in it makes the
element `y`, at any depth inside of that element.
-/
inductive Makes (modifiers : Dict String) :
    StructureEntry → String → StructureEntry → Element → Prop
  | here {e : StructureEntry} {name : String} {x : Element}
      (h : e.build modifiers name = some x) : Makes modifiers e name e x
  | nested {e c d : StructureEntry} {name : String} {y : Element} (hopen : e.Opens modifiers)
      (hcontent : e.content = .children) (hc : .entry c ∈ e.children)
      (h : Makes modifiers c (c.label.getD "") d y) : Makes modifiers e name d y

/-- The elements in a built element are those that its entry and the nested ones make. -/
theorem mem_elements_build_iff {y : Element} (e : StructureEntry) : ∀ {name : String},
    (∃ x, e.build modifiers name = some x ∧ y ∈ (Node.element x).elements) ↔
      ∃ d, Makes modifiers e name d y := by
  induction e using induct with
  | h e ih =>
    intro name
    constructor
    · rintro ⟨x, hx, hy⟩
      obtain ⟨hopen, rfl⟩ := build_eq_some_iff.mp hx
      rcases Node.mem_elements_iff.mp hy with heq | ⟨m, hm, hy⟩
      · cases heq
        exact ⟨e, .here hx⟩
      · rw [Node.contents, contentNodes] at hm
        cases hcontent : e.content with
        | icon => simp [hcontent] at hm
        | value key =>
          rw [hcontent, List.mem_singleton] at hm
          subst hm
          simp [Node.elements] at hy
        | children =>
          rw [hcontent] at hm
          obtain ⟨c, hc, hcm⟩ := List.mem_filterMap.mp hm
          cases c with
          | text s =>
            cases hcm
            simp [Node.elements] at hy
          | entry c =>
            obtain ⟨z, hz, rfl⟩ := Option.map_eq_some_iff.mp hcm
            obtain ⟨d, hd⟩ := (ih c hc).mp ⟨z, hz, hy⟩
            exact ⟨d, .nested hopen hcontent hc hd⟩
    · rintro ⟨d, hd⟩
      cases hd with
      | here h => exact ⟨y, h, Node.mem_elements_iff.mpr (.inl rfl)⟩
      | @nested _ c _ _ _ hopen hcontent hc hd =>
        obtain ⟨z, hz, hy⟩ := (ih c hc).mpr ⟨d, hd⟩
        refine ⟨_, build_eq_some_iff.mpr ⟨hopen, rfl⟩, Node.mem_elements_iff.mpr (.inr ?_)⟩
        refine ⟨.element z, ?_, hy⟩
        rw [Node.contents, contentNodes, hcontent]
        exact List.mem_filterMap.mpr ⟨.entry c, hc, by rw [childNode?, hz, Option.map_some]⟩

/-- What makes an element builds it. -/
theorem Makes.exists_build {e d : StructureEntry} {name : String} {y : Element}
    (h : Makes modifiers e name d y) : ∃ label, d.build modifiers label = some y := by
  induction h with
  | here h => exact ⟨_, h⟩
  | nested _ _ _ _ ih => exact ih

/-! ## More values -/

/--
What a child of an entry makes under some values and under more of them : a text stays as it is, and
an element keeps its tag and its attribute keys, and has in it at least what it had. Only what is
shown of a modifier may differ.
-/
inductive Grows (modifiers more : Dict String) : StructureChild → Node → Node → Prop
  | text (s : String) : Grows modifiers more (.text s) (.text s) (.text s)
  | element {e : StructureEntry} {x x' : Element} (name : x'.name = x.name)
      (keys : x'.attrs.keys = x.attrs.keys)
      (children : e.content = .children → Widens (childNode? modifiers) (childNode? more)
        (Grows modifiers more) e.children x.children x'.children)
      (closed : e.content ≠ .children →
        x.childElements = [] ∧ x'.childElements = [] ∧ x'.children.length = x.children.length) :
      Grows modifiers more (.entry e) (.element x) (.element x')

theorem childElements_closed {e : StructureEntry} (h : e.content ≠ .children) (name : String)
    (attrs : Attrs) : (⟨name, attrs, e.contentNodes modifiers⟩ : Element).childElements = [] := by
  rw [Element.childElements, contentNodes]
  cases hcontent : e.content with
  | children => exact absurd hcontent h
  | _ => rfl

theorem length_contentNodes {e : StructureEntry} (h : e.content ≠ .children) :
    (e.contentNodes more).length = (e.contentNodes modifiers).length := by
  rw [contentNodes, contentNodes]
  cases hcontent : e.content with
  | children => exact absurd hcontent h
  | _ => rfl

/-- What an entry builds grows with the values. -/
theorem exists_build_grows (hmore : ∀ name value, modifiers.get? name = some value →
    more.get? name = some value) (e : StructureEntry) : ∀ {name : String} {x : Element},
    e.build modifiers name = some x → ∃ x', e.build more name = some x' ∧
      Grows modifiers more (.entry e) (.element x) (.element x') := by
  induction e using induct with
  | h e ih =>
    intro name x hx
    obtain ⟨hopen, rfl⟩ := build_eq_some_iff.mp hx
    refine ⟨_, build_eq_some_iff.mpr ⟨hopen.mono hmore, rfl⟩, .element rfl
      (keys_builtAttrs modifiers more e name) (fun hcontent => ?_) fun hcontent =>
        ⟨childElements_closed hcontent _ _, childElements_closed hcontent _ _,
          length_contentNodes hcontent⟩⟩
    simp only [contentNodes, hcontent]
    refine widens_filterMap fun c hc m hm => ?_
    cases c with
    | text s =>
      cases hm
      exact ⟨_, rfl, .text s⟩
    | entry c =>
      obtain ⟨y, hy, rfl⟩ := Option.map_eq_some_iff.mp hm
      obtain ⟨y', hy', hgrows⟩ := ih c hc hy
      exact ⟨.element y', by rw [childNode?, hy', Option.map_some], hgrows⟩

end StructureEntry

namespace Rune

/-- The node that a declared entry makes in front of the content (`before`) or behind it. -/
def scaffoldNode? (modifiers : Dict String) (before : Bool) (p : String × StructureEntry) :
    Option Node :=
  if p.2.before = before then (p.2.build modifiers p.1).map .element else none

theorem synthesized_eq (r : Rune) (modifiers : Dict String) (before : Bool) :
    r.synthesized modifiers before =
      r.scaffold.entries.filterMap (scaffoldNode? modifiers before) := rfl

end Rune

/-- One modifier more takes no value away. -/
theorem Dict.get?_insert_of_new {α : Type} {d : Dict α} {key : String} (h : d.get? key = none)
    (value : α) : ∀ name v, d.get? name = some v → (d.insert key value).get? name = some v := by
  intro name v hv
  have hne : name ≠ key := by
    rintro rfl
    rw [h] at hv
    cases hv
  rw [Dict.get?_insert, if_neg hne, hv]

/--
Under more modifier values, an entry of any nesting that builds an element still builds one, which
has grown. So have the elements that are synthesized for a component, in front of its content and
behind it : those that were there are there, in the same order, and new ones come between them.
-/
theorem Rune.synthesis_grows {modifiers more : Dict String}
    (hmore : ∀ name value, modifiers.get? name = some value → more.get? name = some value) :
    (∀ (e : StructureEntry) (name : String) (x : Element), e.build modifiers name = some x →
      ∃ x', e.build more name = some x' ∧ x'.name = x.name ∧ x'.attrs.keys = x.attrs.keys ∧
        StructureEntry.Grows modifiers more (.entry e) (.element x) (.element x')) ∧
    ∀ (r : Rune) (before : Bool),
      Widens (scaffoldNode? modifiers before) (scaffoldNode? more before)
        (fun p => StructureEntry.Grows modifiers more (.entry p.2)) r.scaffold.entries
        (r.synthesized modifiers before) (r.synthesized more before) := by
  constructor
  · intro e name x hx
    obtain ⟨x', hx', hgrows⟩ := e.exists_build_grows hmore hx
    obtain ⟨hname, hkeys⟩ : x'.name = x.name ∧ x'.attrs.keys = x.attrs.keys := by
      cases hgrows with
      | element hname hkeys => exact ⟨hname, hkeys⟩
    exact ⟨x', hx', hname, hkeys, hgrows⟩
  · intro r before
    rw [synthesized_eq, synthesized_eq]
    refine widens_filterMap fun p _ n hn => ?_
    rw [scaffoldNode?] at hn ⊢
    split at hn
    · rename_i hbefore
      obtain ⟨x, hx, rfl⟩ := Option.map_eq_some_iff.mp hn
      obtain ⟨x', hx', hgrows⟩ := p.2.exists_build_grows hmore hx
      exact ⟨.element x', by rw [if_pos hbefore, hx', Option.map_some], hgrows⟩
    · cases hn

/-- The header of a recipe, with its time and its level where these are known. -/
def recipeHeader : StructureEntry where
  tag := "header"
  before := true
  conditionAny := some ["time", "level"]
  children :=
    [.text "Recipe", .entry { tag := "b", condition := some "time", metaText := some "time" },
     .entry { tag := "em", condition := some "level",
              attrs := .ofList [("data-level", .fromModifier "level")] }]

/-- Recipes have a header. -/
def recipeRune : Rune where
  block := "recipe"
  scaffold := .ofList [("header", recipeHeader)]

/-- The values of a recipe whose level is known. -/
def levelOnly : Dict String := .ofList [("level", "hard")]

/-- The level in the header of a recipe. -/
def builtLevel : Element :=
  ⟨"em", .ofList [("data-name", ""), ("data-level", "hard")], []⟩

/-- The header of a recipe, from its nodes. -/
def builtHeader (nodes : List Node) : Element :=
  ⟨"header", .ofList [("data-name", "header")], nodes⟩

/-- With a time for it, the header gets the time in front of the level, which stays. -/
theorem Rune.synthesis_grows_header :
    (∀ name value, levelOnly.get? name = some value →
      (levelOnly.insert "time" "20m").get? name = some value) ∧
    recipeHeader.build levelOnly "header" =
      some (builtHeader [.text "Recipe", .element builtLevel]) ∧
    StructureEntry.Grows levelOnly (levelOnly.insert "time" "20m") (.entry recipeHeader)
      (.element (builtHeader [.text "Recipe", .element builtLevel]))
      (.element (builtHeader [.text "Recipe",
        .element ⟨"b", .ofList [("data-name", "")], [.text "20m"]⟩, .element builtLevel])) ∧
    Widens (scaffoldNode? levelOnly true) (scaffoldNode? (levelOnly.insert "time" "20m") true)
      (fun p => StructureEntry.Grows levelOnly (levelOnly.insert "time" "20m") (.entry p.2))
      [("header", recipeHeader)] [.element (builtHeader [.text "Recipe", .element builtLevel])]
      (recipeRune.synthesized (levelOnly.insert "time" "20m") true) := by
  have hmore := Dict.get?_insert_of_new (show levelOnly.get? "time" = none from rfl) "20m"
  have hbuild : recipeHeader.build levelOnly "header" =
      some (builtHeader [.text "Recipe", .element builtLevel]) := rfl
  obtain ⟨hentries, hrunes⟩ := Rune.synthesis_grows hmore
  obtain ⟨x', hx', -, -, hgrows⟩ := hentries recipeHeader "header" _ hbuild
  cases hx'
  exact ⟨hmore, hbuild, hgrows, hrunes recipeRune true⟩

end Livery
