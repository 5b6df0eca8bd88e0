import Livery.Proofs.Agreement
import Livery.Proofs.Arrangement
import Livery.Proofs.ContractCoverage

/-!
# The order of children in contracts

The contract of a rune lists the labels of its entries around a mark for the content, from the
configuration alone. Dressing puts the synthesized elements around the children once for each
component. The two agree (`Theme.childOrder_dressed`) : an entry is in the output if its gates are
open (`StructureEntry.isSome_build`), with the label that the contract lists
(`Rune.label_synthesized`), and the walk neither changes these labels nor takes such an element out
(`Theme.Flank`), as long as no entry sets a label, a type or a property by itself.
-/

namespace Livery

open Text (nonEmpty?)

/-! ## Labels of entries -/

/-- The label of a node, if it is an element with one. -/
def Node.label? (n : Node) : Option String := n.asElement?.bind Element.label?

namespace StructureEntry

variable {modifiers : Dict String}

theorem Throughout.mono {P Q : StructureEntry → Prop} (hPQ : ∀ e, P e → Q e) {e : StructureEntry}
    (h : e.Throughout P) : e.Throughout Q := by
  induction h with
  | mk here _ ih => exact ⟨hPQ _ here, ih⟩

theorem Throughout.here {P : StructureEntry → Prop} {e : StructureEntry} (h : e.Throughout P) :
    P e := by
  cases h
  assumption

/-- An entry makes its element if its gates are open. -/
theorem isSome_build (e : StructureEntry) (name : String) :
    (e.build modifiers name).isSome = e.admits modifiers := by
  cases e
  unfold build
  split
  · rename_i h
    exact h.symm
  · rename_i h
    rw [Bool.not_eq_true] at h
    exact h.symm

/-- The label of an element is that of its entry, if the entry sets no other one. -/
theorem label?_build {e : StructureEntry} (he : e.attrs.get? labelKey = none) {name : String}
    {x : Element} (h : e.build modifiers name = some x) : x.label? = some (e.label.getD name) := by
  rw [Element.label?, Element.attr?, (build_cases h).1, builtAttrs, Dict.get?_extend_entries,
    Dict.get?_mapValues, he, Dict.get?_insert, if_pos rfl]
  rfl

end StructureEntry

namespace Rune

/-- No entry of the rune sets one of these attributes, at any depth. -/
def SetsNone (r : Rune) (keys : List String) : Prop :=
  ∀ p ∈ r.scaffold.entries, p.2.Throughout fun e => ∀ key ∈ keys, e.attrs.get? key = none

theorem SetsNone.untyped {r : Rune} {keys : List String} (h : r.SetsNone keys)
    (hkeys : typeofKey ∈ keys) : r.Untyped :=
  fun p hp => (h p hp).mono fun _ he => he typeofKey hkeys

/-- The entries in front of the content, or those behind it. -/
def flankEntries (r : Rune) (before : Bool) : Entries StructureEntry :=
  r.scaffold.entries.filter fun p => p.2.before = before

/-- The label of an entry, which is its name unless it has one of its own. -/
def entryLabel (p : String × StructureEntry) : String := p.2.label.getD p.1

/-- The labels of the synthesized elements are those of the entries whose gates are open. -/
theorem label_synthesized {r : Rune} {keys : List String} (hr : r.SetsNone keys)
    (hkeys : labelKey ∈ keys) (modifiers : Dict String) (before : Bool) :
    (r.synthesized modifiers before).map Node.label? =
      ((r.flankEntries before).filter fun p => p.2.admits modifiers).map fun p =>
        some (entryLabel p) := by
  rw [synthesized, flankEntries, List.map_filterMap, List.filter_filter, ← List.filterMap_eq_map,
    List.filterMap_filter]
  refine List.filterMap_congr fun p hp => ?_
  have hgate : (p.2.build modifiers p.1).isSome = p.2.admits modifiers := p.2.isSome_build p.1
  by_cases hside : p.2.before = before
  · rw [if_pos hside, decide_eq_true hside, Bool.and_true, ← hgate]
    cases hx : p.2.build modifiers p.1 with
    | none => rfl
    | some x =>
      have hlabel := StructureEntry.label?_build ((hr p hp).here labelKey hkeys) hx
      exact congrArg some hlabel
  · rw [if_neg hside, decide_eq_false hside, Bool.and_false, if_neg Bool.false_ne_true]
    rfl

/-- A synthesized element has none of these attributes, apart from its label. -/
theorem SetsNone.attr?_synthesized {r : Rune} {keys : List String} (hr : r.SetsNone keys)
    {key : String} (hkey : key ∈ keys) (hlabel : key ≠ labelKey) {modifiers : Dict String}
    {before : Bool} {x : Element} (hx : .element x ∈ r.synthesized modifiers before) :
    x.attr? key = none := by
  obtain ⟨p, hp, y, hy, -, hattr⟩ := exists_entry_of_mem_synthesized hx
  cases hy
  rw [hattr key hlabel, (hr p hp).here key hkey, Option.map_none]

/-! ## Marks -/

/-- The mark of a content wrapper with this label. -/
def wrapperMark (label : String) : String := "\x7bcontent:" ++ label ++ "\x7d"

theorem wrapperMark_inj {label label' : String} (h : wrapperMark label = wrapperMark label') :
    label = label' := by
  have hlist := congrArg String.toList h
  simp only [wrapperMark, String.toList_append] at hlist
  exact String.toList_inj.mp (List.append_cancel_left (List.append_cancel_right hlist))

/-- The mark without a content wrapper is none of those with one. -/
theorem contentMark_ne_wrapperMark {r : Rune} (hw : r.contentWrapper = none) (label : String) :
    r.contentMark ≠ wrapperMark label := by
  intro h
  -- The ninth character closes the one mark, and is a colon in the others.
  have hlist := congrArg (fun s => s.toList[8]?) h
  simp only [contentMark, hw, wrapperMark, String.toList_append, List.append_assoc] at hlist
  rw [List.getElem?_append_left (by decide)] at hlist
  revert hlist
  decide

theorem contentMark_eq {r : Rune} {w : ContentWrapper} (hw : r.contentWrapper = some w) :
    r.contentMark = wrapperMark w.label := by
  rw [contentMark, hw, wrapperMark]

end Rune

/-! ## The flanks of the content -/

namespace Theme

variable {t : Theme} {e : Element} {type : String} {r : Rune}

/-- The children of a dressed component on one side of the content : its synthesized elements for
this side, dressed, with the labels of the entries whose gates are open. -/
structure Flank (t : Theme) (type : String) (r : Rune) (e : Element) (before : Bool)
    (l : List Node) : Prop where
  dressed : List.Forall₂ (t.Yields (some type))
    ((r.synthesized (r.resolve e) before).map (t.marked (t.blockClass r))) l
  labels : l.map Node.label? =
    ((r.flankEntries before).filter fun p => p.2.admits (r.resolve e)).map fun p =>
      some (Rune.entryLabel p)

/-- An element that is no component keeps its label. -/
theorem label?_of_yields {within : Option String} {block : String} {x : Element} {kid : Node}
    (hx : t.isComponent x = false) (h : t.Yields within (t.marked block (.element x)) kid) :
    kid.label? = x.label? := by
  rw [← markedBy_some] at h
  obtain ⟨_, kids, -, rfl⟩ := yields_markedBy_part hx h
  rw [Node.label?, Node.asElement?, Option.bind_some, Element.label?,
    Element.attr?_reachedBy _ _ (by decide), Element.label?]
  rfl

/-- Synthesized elements come out with their labels, and none of them is left out. -/
theorem flank_of_yields (ht : t.HookFree) (hr : r.SetsNone [labelKey, typeofKey, "property"])
    {before : Bool} {l : List Node}
    (h : List.Forall₂ (t.Yields (some type))
      ((r.synthesized (r.resolve e) before).map (t.marked (t.blockClass r))) l) :
    (l.filter fun n => !r.consumes n) = l ∧ t.Flank type r e before l := by
  have hplain : ∀ x, .element x ∈ r.synthesized (r.resolve e) before → t.runeOf? x = none := by
    intro x hx
    rw [runeOf?, Element.typeOf?, hr.attr?_synthesized (by simp) (by decide) hx, Option.bind_none]
  have hwalked := List.forall₂_map_left_iff.mp h
  refine ⟨List.filter_eq_self.mpr fun kid hkid => ?_, h, ?_⟩
  · obtain ⟨n, hn, hy⟩ := exists_item_of_mem hwalked hkid
    obtain ⟨_, -, x, -, rfl⟩ := Rune.exists_build_of_mem_synthesized hn
    rw [consumes_eq_sheds ht r hy, sheds, property?, hplain x hn,
      hr.attr?_synthesized (by simp) (by decide) hn]
    simp [nonEmpty?]
  · rw [← Rune.label_synthesized hr (by simp)]
    refine map_eq_map_of_forall₂ hwalked fun n hn kid hy => ?_
    obtain ⟨_, -, x, -, rfl⟩ := Rune.exists_build_of_mem_synthesized hn
    rw [label?_of_yields (isComponent_eq_false_iff.mpr (hplain x hn)) hy]
    rfl

/-- The content of a dressed component is the element that its mark stands for, around the dressed
children, or else the dressed children that are not consumed. -/
theorem content_of_mark (r : Rune) (kids : List Node) :
    (∀ label, r.contentMark = Rune.wrapperMark label →
      ∃ x, t.content r ((r.held kids).map Prod.fst) = [.element x] ∧ x.label? = some label ∧
        x.children = kids) ∧
    ((∀ label, r.contentMark ≠ Rune.wrapperMark label) →
      t.content r ((r.held kids).map Prod.fst) = kids.filter fun n => !r.consumes n) := by
  rw [content]
  cases hw : r.contentWrapper with
  | none =>
    refine ⟨fun label h => absurd h (Rune.contentMark_ne_wrapperMark hw label), fun _ => ?_⟩
    exact Rune.held_plain hw kids
  | some w =>
    have hmark := Rune.contentMark_eq hw
    refine ⟨fun label h => ?_, fun h => absurd hmark (h w.label)⟩
    obtain rfl := Rune.wrapperMark_inj (hmark.symm.trans h)
    rw [Rune.held_wrapped hw]
    refine ⟨_, rfl, ?_, ?_⟩
    · rw [Element.label?, Element.attr?_reachedBy _ _ (by decide), ContentWrapper.around,
        Element.attr?, Dict.get?_insert, if_pos rfl]
    · have hchildren := (w.around kids).reachedBy_children (some (t.blockClass r)) kids
      exact congrArg Element.children hchildren.symm

/--
The order of children in the contract of a rune is that of its dressed instances. For a theme
without hooks whose entries set no label, type or property by themselves, each instance is dressed,
and the labels of its synthesized elements in front of the content are those in front of the mark in
the contract, without the ones of entries whose gates are shut for the modifiers of the instance ;
behind the content it is the same. If the mark is that of a content wrapper, then the content is one
element with its label, and otherwise it is the dressed children that are not consumed.
-/
theorem childOrder_dressed (ht : t.HookFree)
    (hset : ∀ r ∈ t.runes.values, r.SetsNone [labelKey, typeofKey, "property"])
    (he : t.runeOf? e = some (type, r)) (within : Option String) :
    ∃ c mark front content back,
      t.contract.runes.get? type = some c ∧
      c.childOrder = (r.flankEntries true).map Rune.entryLabel ++ [mark] ++
        (r.flankEntries false).map Rune.entryLabel ∧
      t.transform within (.element e) = some (.element
        ⟨e.name, r.rootAttrs type (t.blockClass r) within e, front ++ content ++ back⟩) ∧
      t.Flank type r e true front ∧ t.Flank type r e false back ∧
      ∃ reach kids,
        List.Forall₂ (fun child kid => t.Yields (some type) (t.stand r reach child) kid)
          e.children kids ∧
        (∀ label, mark = Rune.wrapperMark label →
          ∃ x, content = [.element x] ∧ x.label? = some label ∧ x.children = kids) ∧
        ((∀ label, mark ≠ Rune.wrapperMark label) →
          content = kids.filter fun n => !r.consumes n) := by
  have hget : t.runes.get? type = some r := get?_of_runeOf? he
  have hr := hset r (t.runes.mem_values_of_get? hget)
  obtain ⟨out, hout⟩ := Option.isSome_iff_exists.mp <|
    isSome_transform (fun r hr => (hset r hr).untyped (by simp)) within (.element e)
  obtain ⟨walked, hwalked, hdressed⟩ := (yields_component he).mp (transform_eq_some_iff.mp hout)
  obtain ⟨front, middle, back, rfl, hfront, hmiddle, hback⟩ := exists_parts_of_prepared hwalked
  obtain ⟨reach, kids, hkids, hcontent⟩ := exists_kids hmiddle
  obtain ⟨hkeptFront, hflankFront⟩ := flank_of_yields ht hr hfront
  obtain ⟨hkeptBack, hflankBack⟩ := flank_of_yields ht hr hback
  refine ⟨_, r.contentMark, front, _, back, get?_contract hget, rfl, ?_, hflankFront, hflankBack,
    reach, kids, hkids, content_of_mark (t := t) r kids⟩
  rw [hout, hdressed, dressed, ht.hook_eq_none he, List.filter_append, List.filter_append,
    hkeptFront, hcontent, hkeptBack]

end Theme

/-- Hints may have a kind, which a badge behind the bar in front of them shows, and end with a
line. -/
def gatedRune : Rune where
  block := "hint"
  modifiers := .ofList [("kind", {})]
  scaffold := .ofList
    [("bar", { tag := "div", before := true }), ("line", { tag := "hr", label := some "end" }),
      ("badge", { tag := "span", before := true, condition := some "kind" })]

/-- A theme of hints with a badge. -/
def gatedTheme : Theme where
  classPrefix := "rf"
  runes := .ofList [("Hint", gatedRune)]

/-- A hint without a kind has no badge. -/
theorem childOrder_dressed_hint :
    gatedTheme.HookFree ∧
    (∀ r ∈ gatedTheme.runes.values, r.SetsNone [labelKey, typeofKey, "property"]) ∧
    gatedTheme.runeOf? (hint [.text "a"]) = some ("Hint", gatedRune) ∧
    ∃ c front back, gatedTheme.contract.runes.get? "Hint" = some c ∧
      c.childOrder = ["bar", "badge", "\x7bcontent\x7d", "end"] ∧
      gatedTheme.transform none (.element (hint [.text "a"])) =
        some (dressedHint (front ++ [.text "a"] ++ back)) ∧
      front.map Node.label? = [some "bar"] ∧ back.map Node.label? = [some "end"] := by
  have hrunes : ∀ r ∈ gatedTheme.runes.values, r = gatedRune := fun _ => List.mem_singleton.mp
  have hookFree : gatedTheme.HookFree := fun r hr => by rw [hrunes r hr]; rfl
  have hset : ∀ r ∈ gatedTheme.runes.values, r.SetsNone [labelKey, typeofKey, "property"] := by
    intro r hr p hp
    rw [hrunes r hr] at hp
    have hempty : ∀ p ∈ gatedRune.scaffold.entries,
        p.2.attrs.isEmpty = true ∧ p.2.children.isEmpty = true := by decide
    obtain ⟨hattrs, hchildren⟩ := hempty p hp
    refine .mk (fun key _ => ?_) fun c hc => ?_
    · rw [Dict.get?, List.isEmpty_iff.mp hattrs, List.lookup_nil]
    · rw [List.isEmpty_iff.mp hchildren] at hc
      cases hc
  have hrune : gatedTheme.runeOf? (hint [.text "a"]) = some ("Hint", gatedRune) := rfl
  obtain ⟨c, mark, front, content, back, hc, horder, hout, hfront, hback, reach, kids, hkids, -,
    hplain⟩ := Theme.childOrder_dressed hookFree hset hrune none
  have hc' := hc
  cases hc
  obtain rfl : mark = "\x7bcontent\x7d" := by
    have h : ["bar", "badge", "\x7bcontent\x7d", "end"] = ["bar", "badge", mark, "end"] := horder
    simpa using h.symm
  have hcontent : content = [.text "a"] := by
    have hone : List.Forall₂ _ [Node.text "a"] kids := hkids
    rw [hplain (Rune.contentMark_ne_wrapperMark (r := gatedRune) rfl)]
    obtain ⟨kid, rest, hkid, hrest, rfl⟩ := List.forall₂_cons_left_iff.mp hone
    rw [Theme.stand, Rune.labelled_of_not_element _ rfl, Theme.markedBy_of_not_element _ rfl,
      Theme.yields_leaf rfl] at hkid
    rw [List.forall₂_nil_left_iff.mp hrest, hkid]
    rfl
  refine ⟨hookFree, hset, hrune, _, front, back, hc', horder, ?_, hfront.labels, hback.labels⟩
  have hattrs : gatedRune.rootAttrs "Hint" (gatedTheme.blockClass gatedRune) none
      (hint [.text "a"]) = .ofList [("typeof", "Hint"), ("class", "rf-hint"),
        ("data-rune", "hint")] := by cbv
  rw [hout, hcontent, hattrs]
  rfl

end Livery
