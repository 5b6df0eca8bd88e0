import Livery.Proofs.Texts
import Livery.Theme.Contract

/-!
# The labelled elements of a contract

The contract of a component type lists its labelled elements by label. An entry that meets a label
that is taken replaces what stands there or leaves it, but nothing that was found is lost
(`Finds.keeps`), and the selector that stands under a label is always the one of the label
(`Finds.named`). So each label that a component type gives has its selector in the contract :
the labels of entries down to the first entry without one (`StructureEntry.Lists`), the label of the
content wrapper and the labels of children (`Rune.labels_of_rune`).
-/

namespace Livery

open Text (nonEmpty?)

/-- The selector of the elements of a block with a label. -/
def elementSelector (block label : String) : String := "." ++ block ++ "__" ++ label

/-- A table of labelled elements that has come from another one. -/
structure Finds (block : String) (found found' : Dict ElementContract) : Prop where
  /-- No label is lost. -/
  keeps : ∀ label, found.contains label = true → found'.contains label = true
  /-- What stands under a label has the selector of the label. -/
  named : (∀ label c, found.get? label = some c → c.selector = elementSelector block label) →
    ∀ label c, found'.get? label = some c → c.selector = elementSelector block label

namespace Finds

variable {block : String} {found found' found'' : Dict ElementContract}

theorem refl (block : String) (found : Dict ElementContract) : Finds block found found :=
  ⟨fun _ h => h, fun h => h⟩

theorem trans (h : Finds block found found') (h' : Finds block found' found'') :
    Finds block found found'' :=
  ⟨fun label hl => h'.keeps label (h.keeps label hl), fun hn => h'.named (h.named hn)⟩

theorem insert {label : String} {c : ElementContract}
    (hc : c.selector = elementSelector block label) (found : Dict ElementContract) :
    Finds block found (found.insert label c) where
  keeps := fun l hl => by rw [Dict.contains_insert, hl, Bool.or_true]
  named := fun hn l c' hl => by
    rw [Dict.get?_insert] at hl
    split at hl
    · rename_i heq
      cases hl
      rw [heq, hc]
    · exact hn l c' hl

/-- Setting elements under their labels finds the labels. -/
theorem extend {α : Type} {f : α → String × ElementContract}
    (hf : ∀ a, (f a).2.selector = elementSelector block (f a).1) :
    ∀ (l : List α) (found : Dict ElementContract),
      Finds block found (found.extend (l.map f)) ∧
        ∀ a ∈ l, (found.extend (l.map f)).contains (f a).1 = true
  | [], found => ⟨refl block found, fun a ha => by cases ha⟩
  | a :: l, found => by
    obtain ⟨hfinds, hall⟩ := extend hf l (found.insert (f a).1 (f a).2)
    refine ⟨(insert (hf a) found).trans hfinds, fun b hb => ?_⟩
    rcases List.mem_cons.mp hb with rfl | hb
    · exact hfinds.keeps (f b).1 (by rw [Dict.contains_insert]; simp)
    · exact hall b hb

end Finds

namespace StructureEntry

/-! ## Entries -/

/-- All labels from an entry on, along nested entries with a label, are of a kind. -/
inductive Lists (P : String → Prop) : StructureEntry → String → Prop
  | mk {e : StructureEntry} {label : String} (here : P label)
      (below : ∀ c l, .entry c ∈ e.children → nonEmpty? c.label = some l → Lists P c l) :
      Lists P e label

theorem Lists.mono {P Q : String → Prop} (hPQ : ∀ l, P l → Q l) {e : StructureEntry}
    {label : String} (h : Lists P e label) : Lists Q e label := by
  induction h with
  | mk here _ ih => exact .mk (hPQ _ here) ih

theorem collect_eq (block : String) (parent : Option String) (found : Dict ElementContract)
    (e : StructureEntry) (label : String) :
    ∃ found', Finds block found found' ∧ found'.contains label = true ∧
      e.collect block parent found label = collectAll block label found' e.children := by
  obtain ⟨tag, _, _, condition, conditionAny, _, _, _, _, _, _, children⟩ := e
  by_cases h : found.contains label = true
  · exact ⟨found, .refl block found, h, by rw [collect, if_pos h]⟩
  · refine ⟨_, .insert rfl found, ?_, by rw [collect, if_neg h]⟩
    rw [Dict.contains_insert]
    simp

/-- What the entries among some children are collected for is found. -/
theorem collectAll_finds {block : String} : ∀ {l : List StructureChild},
    (∀ c, .entry c ∈ l → ∀ parent found label,
      Finds block found (c.collect block parent found label) ∧
        Lists (fun k => (c.collect block parent found label).contains k = true) c label) →
    ∀ parent found, Finds block found (collectAll block parent found l) ∧
      ∀ c label, .entry c ∈ l → nonEmpty? c.label = some label →
        Lists (fun k => (collectAll block parent found l).contains k = true) c label
  | [], _, parent, found => by
    rw [collectAll]
    exact ⟨.refl block found, fun c label hc => by simp at hc⟩
  | .text s :: rest, h, parent, found => by
    obtain ⟨hfinds, hlists⟩ :=
      collectAll_finds (fun c hc => h c (List.mem_cons_of_mem _ hc)) parent found
    rw [collectAll]
    refine ⟨hfinds, fun c label hc hl => hlists c label ?_ hl⟩
    simpa using hc
  | .entry e :: rest, h, parent, found => by
    have hrest := collectAll_finds fun c hc => h c (List.mem_cons_of_mem _ hc)
    rw [collectAll]
    cases he : nonEmpty? e.label with
    | none =>
      obtain ⟨hfinds, hlists⟩ := hrest parent found
      refine ⟨hfinds, fun c label hc hl => ?_⟩
      rcases List.mem_cons.mp hc with hc | hc
      · cases hc
        rw [he] at hl
        cases hl
      · exact hlists c label hc hl
    | some l =>
      obtain ⟨hhead, hlisted⟩ := h e List.mem_cons_self (some parent) found l
      obtain ⟨hfinds, hlists⟩ := hrest parent (e.collect block (some parent) found l)
      refine ⟨hhead.trans hfinds, fun c label hc hl => ?_⟩
      rcases List.mem_cons.mp hc with hc | hc
      · cases hc
        rw [he, Option.some.injEq] at hl
        exact hl ▸ hlisted.mono hfinds.keeps
      · exact hlists c label hc hl

/-- What an entry is collected for is found : its label, and those of nested entries. -/
theorem collect_finds (block : String) (e : StructureEntry) :
    ∀ parent found label, Finds block found (e.collect block parent found label) ∧
      Lists (fun k => (e.collect block parent found label).contains k = true) e label := by
  induction e using induct with
  | h e ih =>
    intro parent found label
    obtain ⟨found', hfound, hlabel, heq⟩ := collect_eq block parent found e label
    obtain ⟨hfinds, hlists⟩ := collectAll_finds ih label found'
    rw [heq]
    exact ⟨hfound.trans hfinds, .mk (hfinds.keeps label hlabel) hlists⟩

end StructureEntry

namespace Rune

/-! ## Component types -/

/-- Whether a label stands in the contract of a component type, with the selector of the label. -/
def Labels (r : Rune) (block label : String) : Prop :=
  ∃ c, (r.elementContracts block).get? label = some c ∧ c.selector = elementSelector block label

theorem collectEach_finds (block : String) : ∀ (l : Entries StructureEntry)
    (found : Dict ElementContract),
    let found' := l.foldl (fun found p => p.2.collect block none found (p.2.label.getD p.1)) found
    Finds block found found' ∧
      ∀ p ∈ l, p.2.Lists (fun k => found'.contains k = true) (p.2.label.getD p.1)
  | [], found => ⟨.refl block found, fun p hp => by cases hp⟩
  | p :: l, found => by
    obtain ⟨hhead, hlisted⟩ := p.2.collect_finds block none found (p.2.label.getD p.1)
    obtain ⟨hfinds, hlists⟩ :=
      collectEach_finds block l (p.2.collect block none found (p.2.label.getD p.1))
    refine ⟨hhead.trans hfinds, fun q hq => ?_⟩
    rcases List.mem_cons.mp hq with rfl | hq
    · exact hlisted.mono hfinds.keeps
    · exact hlists q hq

/-- All labels of a component type stand in its contract : those of its entries, of its content
wrapper and of its children. -/
theorem labels_of_rune (r : Rune) (block : String) :
    (∀ p ∈ r.scaffold.entries, p.2.Lists (r.Labels block) (p.2.label.getD p.1)) ∧
      (∀ w, r.contentWrapper = some w → r.Labels block w.label) ∧
      ∀ label ∈ r.autoLabel.values, r.Labels block label := by
  let make (tag label : String) (origin : ElementOrigin) : String × ElementContract :=
    (label, { tag, selector := elementSelector block label, origin })
  obtain ⟨hscaffold, hlists⟩ := collectEach_finds block r.scaffold.entries ∅
  obtain ⟨hwrapper, hwrapped⟩ := Finds.extend (f := fun w : ContentWrapper =>
    make w.tag w.label .contentWrapper) (fun _ => rfl) r.contentWrapper.toList
      (r.scaffold.entries.foldl
        (fun found p => p.2.collect block none found (p.2.label.getD p.1)) ∅)
  obtain ⟨hauto, hlabelled⟩ := Finds.extend (f := fun p : String × String =>
    make p.1 p.2 .autoLabel) (fun _ => rfl) r.autoLabel.entries _
  have hnamed := ((hscaffold.trans hwrapper).trans hauto).named fun label c h => by cases h
  have hlabels {label : String} (h : (r.elementContracts block).contains label = true) :
      r.Labels block label := by
    obtain ⟨c, hc⟩ := Option.isSome_iff_exists.mp h
    exact ⟨c, hc, hnamed label c hc⟩
  refine ⟨fun p hp => ?_, fun w hw => ?_, fun label hl => ?_⟩
  · exact (hlists p hp).mono fun l hl => hlabels (hauto.keeps l (hwrapper.keeps l hl))
  · exact hlabels (hauto.keeps _ (hwrapped w (by rw [hw]; exact List.mem_singleton_self w)))
  · obtain ⟨p, hp, rfl⟩ := List.mem_map.mp hl
    exact hlabels (hlabelled p hp)

end Rune

end Livery
