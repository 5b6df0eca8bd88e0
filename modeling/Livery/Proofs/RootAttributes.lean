import Livery.Proofs.Walk

/-!
# The attributes of a root

The root of a component keeps its own attributes in their order, and what the theme sets for it is
laid over them, one layer over the other : the data attributes of the resolved modifiers, the
classes, the name of the component, the attributes that the rune gives, and the inline style. New
keys stand behind the own ones in the order in which they are first set (`Rune.keys_rootAttrs`), and
the last layer that sets a key decides on its value (`Rune.get?_rootAttrs`). Layers do meet : two
modifiers may share a data attribute, and a modifier named `rune` shares its own with the name of
the component.
-/

namespace Livery

open Text (nonEmpty?)

namespace Rune

/-! ## Resolved modifiers -/

/-- The resolved modifiers are the declared ones with a value, in declaration order. -/
theorem entries_resolve (r : Rune) (e : Element) :
    (r.resolve e).entries = r.modifiers.entries.filterMap fun p =>
      (modifierValue? e p.1 p.2).map fun v => (p.1, v) :=
  Dict.entries_ofList <|
    (Entries.keys_filterMap_sublist (modifierValue? e) r.modifiers.entries).nodup r.modifiers.nodup

/-- A modifier has the value that its source gives, or else its default. -/
theorem get?_resolve (r : Rune) (e : Element) (name : String) :
    (r.resolve e).get? name = (r.modifiers.get? name).bind (modifierValue? e name) := by
  rw [Dict.get?, entries_resolve, Entries.lookup_filterMap _ _ r.modifiers.nodup, Dict.get?]

/-! ## The layers -/

/-- The value of the last modifier with a data attribute. -/
def lastValue? (modifiers : Entries String) (key : String) : Option String :=
  (modifiers.reverse.find? fun p => dataKey p.1 = key).map Prod.snd

/-- Reading data attributes finds the first modifier with the data attribute. -/
theorem lookup_dataKeys (key : String) : ∀ l : Entries String,
    (l.map fun p => (dataKey p.1, p.2)).lookup key =
      (l.find? fun p => dataKey p.1 = key).map Prod.snd
  | [] => rfl
  | p :: l => by
    rw [List.map_cons, List.lookup_cons]
    by_cases h : dataKey p.1 = key
    · rw [List.find?_cons_of_pos (by simpa using h), h, beq_self_eq_true]
      rfl
    · rw [List.find?_cons_of_neg (by simpa using h), beq_false_of_ne (Ne.symm h),
        lookup_dataKeys key l]

/-- A root has its own keys, then the new ones in the order in which the layers first set them. -/
theorem keys_rootAttrs (r : Rune) (type block : String) (parent : Option String) (e : Element) :
    (r.rootAttrs type block parent e).keys = e.attrs.keys ++
      (((r.resolve e).entries.map (fun p => dataKey p.1) ++ ["class", "data-rune"] ++
        r.rootAttributes.keys ++ if r.style e (r.resolve e) = "" then [] else ["style"]).filter
          (· ∉ e.attrs.keys)).eraseDups := by
  have hkeys : Entries.keys ((r.resolve e).entries.map fun p => (dataKey p.1, p.2)) =
      (r.resolve e).entries.map fun p => dataKey p.1 :=
    List.map_map
  have happend : ∀ l m : Entries String, Entries.keys (l ++ m) = Entries.keys l ++ Entries.keys m :=
    fun l m => List.map_append
  simp only [rootAttrs, Dict.keys_extend, happend, hkeys]
  split <;> rfl

/-- The last layer that sets a key decides on its value, and among the modifiers the last one. -/
theorem get?_rootAttrs (r : Rune) (type block : String) (parent : Option String) (e : Element)
    (key : String) :
    (r.rootAttrs type block parent e).get? key =
      (if key = "style" ∧ r.style e (r.resolve e) ≠ "" then some (r.style e (r.resolve e))
        else none).or
      ((r.rootAttributes.get? key).or
      ((if key = "data-rune" then some (Text.lower type) else none).or
      ((if key = "class" then
          some (" ".intercalate (r.classes block (r.resolve e) parent (e.attr? "class")))
        else none).or
      ((lastValue? (r.resolve e).entries key).or (e.attrs.get? key))))) := by
  have hsingle : ∀ k v : String, List.lookup key [(k, v)] = if key = k then some v else none := by
    intro k v
    by_cases h : key = k
    · rw [if_pos h, h, List.lookup_cons_self]
    · rw [if_neg h, List.lookup_cons, beq_false_of_ne h]
      rfl
  simp only [rootAttrs, Dict.extend_append]
  rw [Dict.get?_extend, Dict.get?_extend_entries, Dict.get?_extend, Dict.get?_extend,
    ← List.map_reverse, lookup_dataKeys, ← lastValue?]
  have hstyle : List.lookup key (if r.style e (r.resolve e) = "" then []
        else [("style", r.style e (r.resolve e))]).reverse =
      if key = "style" ∧ r.style e (r.resolve e) ≠ "" then some (r.style e (r.resolve e))
        else none := by
    by_cases h : r.style e (r.resolve e) = ""
    · simp [h]
    · rw [if_neg h, List.reverse_singleton, hsingle]
      simp [h]
  rw [hstyle, List.reverse_cons, List.reverse_singleton, List.lookup_append, hsingle, hsingle,
    Option.or_assoc]

theorem dataKey_ne {key : String} (h : key.toList.head? ≠ some 'd') (name : String) :
    dataKey name ≠ key := by
  intro heq
  have hlist := congrArg String.toList heq
  rw [dataKey, String.toList_append] at hlist
  exact h ((congrArg List.head? hlist).symm.trans (by simp))

/-- No modifier has a value for a key that does not start like a data attribute. -/
theorem lastValue?_eq_none {key : String} (h : key.toList.head? ≠ some 'd')
    (modifiers : Entries String) : lastValue? modifiers key = none := by
  rw [lastValue?, List.find?_eq_none.mpr fun p _ => by simpa using dataKey_ne h p.1,
    Option.map_none]

/-- An attribute of a dressed root that is not computed is the one that the theme sets, or else its
own. -/
theorem get?_rootAttrs_of_uncomputed (r : Rune) (type block : String) (parent : Option String)
    (e : Element) {key : String} (hdata : key.toList.head? ≠ some 'd') (hclass : key ≠ "class")
    (hstyle : key ≠ "style") :
    (r.rootAttrs type block parent e).get? key =
      (r.rootAttributes.get? key).or (e.attr? key) := by
  have hrune : key ≠ "data-rune" := by
    rintro rfl
    exact hdata (by decide)
  rw [get?_rootAttrs, lastValue?_eq_none hdata, if_neg (fun h => hstyle h.1), if_neg hrune,
    if_neg hclass, Option.none_or, Option.none_or, Option.none_or, Option.none_or, Element.attr?]

theorem get?_class_rootAttrs {r : Rune} (hr : r.rootAttributes.get? "class" = none)
    (type block : String) (parent : Option String) (e : Element) :
    (r.rootAttrs type block parent e).get? "class" =
      some (" ".intercalate (r.classes block (r.resolve e) parent (e.attr? "class"))) := by
  rw [get?_rootAttrs, hr, if_neg (fun h => absurd h.1 (by decide)), if_neg (by decide), if_pos rfl]
  rfl

end Rune

/-! ## Roots -/

/--
The root of a component without a hook has its own keys in their order, then the new ones in the
order in which they are first set, each once : the data attributes of the resolved modifiers,
`class`, `data-rune`, the keys that the rune gives, and `style` if there is an inline style. A key
has its value from the last of these layers that sets it, and from the last of the modifiers that
share it.
-/
theorem Theme.root_attributes {t : Theme} {within : Option String} {e : Element} {type : String}
    {r : Rune} {out : Node} (he : t.runeOf? e = some (type, r)) (hhook : r.hook = none)
    (h : t.Yields within (.element e) out) :
    ∃ (modifiers : Entries String) (style classText : String) (attrs : Attrs)
        (children : List Node),
      modifiers = (r.modifiers.entries.filterMap fun p =>
        (Rune.modifierValue? e p.1 p.2).map fun v => (p.1, v)) ∧
      style = "; ".intercalate ((nonEmpty? (e.attr? "style")).toList ++
        r.styles.entries.filterMap fun p =>
          (modifiers.lookup p.1).map fun v => Rune.stylePart v p.2) ∧
      classText = " ".intercalate
        (r.classes (t.blockClass r) (Dict.ofList modifiers) within (e.attr? "class")) ∧
      out = .element ⟨e.name, attrs, children⟩ ∧
      attrs.keys.Nodup ∧
      attrs.keys = e.attrs.keys ++
        ((modifiers.map (fun p => Rune.dataKey p.1) ++ ["class", "data-rune"] ++
          r.rootAttributes.keys ++ if style = "" then [] else ["style"]).filter
            (· ∉ e.attrs.keys)).eraseDups ∧
      ∀ key, attrs.get? key =
        (if key = "style" ∧ style ≠ "" then some style else none).or
        ((r.rootAttributes.get? key).or
        ((if key = "data-rune" then some (Text.lower type) else none).or
        ((if key = "class" then some classText else none).or
        ((Rune.lastValue? modifiers key).or (e.attrs.get? key))))) := by
  obtain ⟨walked, -, rfl⟩ := (yields_component he).mp h
  have hout : t.dressed type r within e walked =
      ⟨e.name, r.rootAttrs type (t.blockClass r) within e,
        walked.filter fun n => !r.consumes n⟩ := by
    rw [dressed, hhook]
  rw [← r.entries_resolve]
  refine ⟨_, _, _, _, _, rfl, rfl, rfl, congrArg Node.element hout,
    (r.rootAttrs type (t.blockClass r) within e).nodup,
    r.keys_rootAttrs type (t.blockClass r) within e, ?_⟩
  rw [Dict.ofList_entries]
  exact r.get?_rootAttrs type (t.blockClass r) within e

/-- How a card is dressed whose layers meet : two modifiers share a data attribute, one shares its
own with the name of the component, and the rune gives a class. -/
def cardRune : Rune where
  block := "card"
  modifiers := .ofList
    [("cardSize", { source := .attribute }), ("card-size", { default := some "wide" }),
     ("rune", { default := some "plain" })]
  styles := .ofList [("cardSize", .property "--size")]
  rootAttributes := .ofList [("role", "note"), ("class", "fixed")]

/-- A theme with cards. -/
def cardTheme : Theme where
  classPrefix := "rf"
  runes := .ofList [("Card", cardRune)]

/-- A card with attributes that the theme sets. -/
def card : Element where
  name := "section"
  attrs := .ofList
    [("style", "margin: 0"), ("typeof", "Card"), ("cardSize", "small"), ("data-card-size", "old")]
  children := [.text "a"]

/-- The dressed card. -/
def dressedCard : Element where
  name := "section"
  attrs := .ofList
    [("style", "margin: 0; --size: small"), ("typeof", "Card"), ("cardSize", "small"),
     ("data-card-size", "wide"), ("data-rune", "card"), ("class", "fixed"), ("role", "note")]
  children := [.text "a"]

theorem root_attributes_card :
    cardTheme.runeOf? card = some ("Card", cardRune) ∧ cardRune.hook = none ∧
    cardTheme.Yields none (.element card) (.element dressedCard) ∧
    ∃ (modifiers : Entries String) (style classText : String),
      modifiers = [("cardSize", "small"), ("card-size", "wide"), ("rune", "plain")] ∧
      modifiers.map (fun p => Rune.dataKey p.1) =
        ["data-card-size", "data-card-size", "data-rune"] ∧
      style = "margin: 0; --size: small" ∧
      dressedCard.attrs.keys = card.attrs.keys ++
        ((["data-card-size", "data-card-size", "data-rune"] ++ ["class", "data-rune"] ++
          ["role", "class"] ++ ["style"]).filter (· ∉ card.attrs.keys)).eraseDups ∧
      ∀ key, dressedCard.attrs.get? key =
        (if key = "style" ∧ style ≠ "" then some style else none).or
        ((cardRune.rootAttributes.get? key).or
        ((if key = "data-rune" then some (Text.lower "Card") else none).or
        ((if key = "class" then some classText else none).or
        ((Rune.lastValue? modifiers key).or (card.attrs.get? key))))) := by
  have he : cardTheme.runeOf? card = some ("Card", cardRune) := rfl
  have hattrs : cardRune.rootAttrs "Card" (cardTheme.blockClass cardRune) none card =
      dressedCard.attrs := by decide +kernel
  have hwalked : List.Forall₂ (cardTheme.Yields (some "Card")) (cardTheme.prepared cardRune card)
      [.text "a"] :=
    .cons ((Theme.yields_leaf rfl).mpr rfl) .nil
  have hdressed : dressedCard = cardTheme.dressed "Card" cardRune none card [.text "a"] := by
    rw [Theme.dressed, hattrs]
    rfl
  have hy : cardTheme.Yields none (.element card) (.element dressedCard) :=
    (Theme.yields_component he).mpr ⟨_, hwalked, congrArg Node.element hdressed⟩
  obtain ⟨modifiers, style, classText, attrs, children, hmodifiers, hstyle, -, hout, -, hkeys,
    hvalues⟩ := Theme.root_attributes he rfl hy
  obtain rfl : attrs = dressedCard.attrs := by
    injection hout with hout
    exact (congrArg Element.attrs hout).symm
  have hmodifiers' :
      modifiers = [("cardSize", "small"), ("card-size", "wide"), ("rune", "plain")] :=
    hmodifiers.trans rfl
  have hdata : modifiers.map (fun p => Rune.dataKey p.1) =
      ["data-card-size", "data-card-size", "data-rune"] := by
    rw [hmodifiers']
    decide +kernel
  have hstyle' : style = "margin: 0; --size: small" := by
    rw [hstyle, hmodifiers']
    decide +kernel
  rw [hdata, if_neg (by rw [hstyle']; decide)] at hkeys
  exact ⟨he, rfl, hy, modifiers, style, classText, hmodifiers', hdata, hstyle', hkeys, hvalues⟩

end Livery
