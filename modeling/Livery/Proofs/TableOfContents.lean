import Mathlib.Data.List.Forall2
import Livery.Layout.Widget

/-!
# Tables of contents

A table of contents is shown by a gate and made by a builder, and both look for the headings with a
level in the range of its options. The headings that count (`Widget.counted`) are the same for the
two : the gate compares their number with what the widget needs (`Widget.Suffices`), and the builder
makes one item for each of them (`Widget.Shows`), so the list is as long as the gate has counted.
-/

namespace Livery

namespace Widget

variable {w : Widget} {page : Page}

/-! ## The headings that count -/

/-- The level of a heading is in the range of a widget : from the second to the third, or as the
options of the widget say. -/
structure InRange (w : Widget) (h : Heading) : Prop where
  least : (w.options.bind TocOptions.minLevel).getD 2 ≤ h.level
  greatest : h.level ≤ (w.options.bind TocOptions.maxLevel).getD 3

theorem inRange_iff {h : Heading} :
    w.InRange h ↔ w.minLevel ≤ h.level ∧ h.level ≤ w.maxLevel :=
  ⟨fun hr => ⟨hr.least, hr.greatest⟩, fun hr => ⟨hr.1, hr.2⟩⟩

instance (w : Widget) : DecidablePred w.InRange := fun _ => decidable_of_iff _ inRange_iff.symm

/-- The headings of a page that count for a widget, in document order. -/
def counted (w : Widget) (page : Page) : List Heading := page.headings.filter (w.InRange ·)

theorem headingsBetween_eq (w : Widget) (page : Page) :
    headingsBetween page w.minLevel w.maxLevel = w.counted page :=
  List.filter_congr fun _ _ => decide_eq_decide.mpr inRange_iff.symm

/-! ## The gate -/

/-- The front matter of a page turns a widget off : the key that the widget names is `false`. -/
def TurnedOff (w : Widget) (page : Page) : Prop :=
  ∃ v key, w.visibility = some v ∧ v.toggle = some key ∧
    page.frontmatter.get? key = some (.bool false)

/-- A number of headings is enough for a table of contents : there is one, and there are as many as
the widget needs. -/
structure Suffices (w : Widget) (n : ℕ) : Prop where
  pos : 1 ≤ n
  needed : ∀ v m, w.visibility = some v → v.minCount = some m → m ≤ n

theorem isHidden_iff : w.isHidden page = true ↔ w.TurnedOff page := by
  rw [isHidden]
  constructor
  · intro h
    split at h
    · rename_i hfalse
      obtain ⟨key, hkey, hget⟩ := Option.bind_eq_some_iff.mp hfalse
      obtain ⟨v, hv, htoggle⟩ := Option.bind_eq_some_iff.mp hkey
      exact ⟨v, key, hv, htoggle, hget⟩
    · cases h
  · rintro ⟨v, key, hv, htoggle, hget⟩
    simp only [hv, htoggle, hget, Option.bind_some]

theorem suffices_iff {n : ℕ} : w.Suffices n ↔ n ≠ 0 ∧ w.minCount ≤ n := by
  rw [minCount]
  constructor
  · rintro ⟨hpos, hneeded⟩
    refine ⟨by omega, ?_⟩
    cases hm : w.visibility.bind Visibility.minCount with
    | none => exact Nat.zero_le n
    | some m =>
      obtain ⟨v, hv, hcount⟩ := Option.bind_eq_some_iff.mp hm
      exact hneeded v m hv hcount
  · rintro ⟨hne, hle⟩
    refine ⟨by omega, fun v m hv hcount => ?_⟩
    simpa only [hv, Option.bind_some, hcount, Option.getD_some] using hle

/-! ## The list -/

/-- The items of a table of contents : the list that holds them stands behind a title. -/
def Lists (e : Element) (items : List Element) : Prop :=
  ∃ title list, e.children = [title, .element list] ∧ list.children = items.map Node.element

/-- An item shows the level of a heading, and its text in a link to it. -/
structure Shows (h : Heading) (item : Element) : Prop where
  level : item.attr? "data-level" = some (Nat.repr h.level)
  link : ∃ a, item.children = [.element a] ∧ a.attr? "href" = some ("#" ++ h.id) ∧
    a.children = [.text h.text]

theorem exists_tocItem (pre : String) (h : Heading) :
    ∃ item, tocItem pre h = .element item ∧ Shows h item :=
  ⟨_, rfl, ⟨by simp [Element.attr?, Dict.get?_insert], _, rfl,
    by simp [Element.attr?, Dict.get?_insert], rfl⟩⟩

theorem exists_items (pre : String) : ∀ headings : List Heading,
    ∃ items, headings.map (tocItem pre) = items.map Node.element ∧
      List.Forall₂ Shows headings items
  | [] => ⟨[], rfl, .nil⟩
  | h :: headings => by
    obtain ⟨item, hitem, hshows⟩ := exists_tocItem pre h
    obtain ⟨items, hitems, hall⟩ := exists_items pre headings
    exact ⟨item :: items, by simp only [List.map_cons, hitem, hitems], .cons hshows hall⟩

theorem isSome_toc {pre : String} {min max : ℕ} :
    (toc page pre min max).isSome = true ↔ (headingsBetween page min max).length ≠ 0 := by
  rw [toc]
  split <;> simp_all

theorem exists_items_of_toc {pre : String} {min max : ℕ} {e : Element}
    (h : toc page pre min max = some e) :
    ∃ items, Lists e items ∧ List.Forall₂ Shows (headingsBetween page min max) items := by
  obtain ⟨items, hitems, hshows⟩ := exists_items pre (headingsBetween page min max)
  rw [toc] at h
  split at h
  · cases h
  · obtain rfl := Option.some.inj h
    exact ⟨items, ⟨_, _, rfl, hitems⟩, hshows⟩

/-- A table of contents is what the builder makes, where the gate lets it through. -/
theorem resolve_toc (hkind : w.kind = .toc) (page : Page) (pre : String) :
    w.resolve page pre =
      if w.isHidden page = false ∧ w.minCount ≤ (w.counted page).length then
        toc page pre w.minLevel w.maxLevel
      else none := by
  rw [resolve, hkind]
  simp only [headingsBetween_eq]
  cases w.isHidden page with
  | true => simp
  | false =>
    by_cases hcount : w.minCount ≤ (w.counted page).length
    · simp [hcount, Nat.not_lt.mpr hcount]
    · simp [hcount, Nat.lt_of_not_le hcount]

theorem isSome_resolve_toc (hkind : w.kind = .toc) (page : Page) (pre : String) :
    (w.resolve page pre).isSome = true ↔
      ¬ w.TurnedOff page ∧ w.Suffices (w.counted page).length := by
  have hbuilt : (toc page pre w.minLevel w.maxLevel).isSome = true ↔
      (w.counted page).length ≠ 0 := by
    rw [isSome_toc, headingsBetween_eq]
  rw [resolve_toc hkind, ← isHidden_iff, Bool.not_eq_true, suffices_iff, ← hbuilt]
  split_ifs with hgate
  · exact ⟨fun h => ⟨hgate.1, h, hgate.2⟩, fun h => h.2.1⟩
  · exact iff_of_false Bool.false_ne_true fun h => hgate ⟨h.1, h.2.2⟩

/--
A table of contents is shown exactly if the front matter does not turn it off and the headings that
count are enough. Its list then has an item for each of them in document order, with the level, the
text and the link of the heading, so it has as many items as were counted.
-/
theorem toc_lists_counted (hkind : w.kind = .toc) (page : Page) (pre : String) :
    ((w.resolve page pre).isSome = true ↔
      ¬ w.TurnedOff page ∧ w.Suffices (w.counted page).length) ∧
    ∀ e, w.resolve page pre = some e → ∃ items, Lists e items ∧
      List.Forall₂ Shows (w.counted page) items ∧ items.length = (w.counted page).length := by
  refine ⟨isSome_resolve_toc hkind page pre, fun e he => ?_⟩
  rw [resolve_toc hkind] at he
  split_ifs at he
  obtain ⟨items, hlists, hshows⟩ := exists_items_of_toc he
  rw [headingsBetween_eq] at hshows
  exact ⟨items, hlists, hshows, hshows.length_eq.symm⟩

/-- A page of a guide whose front matter sets the toggle to something else than `false`. -/
def guide : Page where
  frontmatter := Dict.ofList [("toc", .null)]
  headings := [⟨1, "Guide", "guide"⟩, ⟨2, "Install", "install"⟩, ⟨4, "Proxies", "proxies"⟩,
    ⟨2, "Install", "install"⟩, ⟨3, "Options", "options"⟩]

/-- A table of contents from the second level on that needs three headings. -/
def onThisPage : Widget where
  kind := .toc
  source := "headings"
  options := some { minLevel := some 2 }
  visibility := some { toggle := some "toc", minCount := some 3 }

theorem toc_lists_counted_guide :
    onThisPage.kind = .toc ∧
    onThisPage.counted guide =
      [⟨2, "Install", "install"⟩, ⟨2, "Install", "install"⟩, ⟨3, "Options", "options"⟩] ∧
    ∃ e items, onThisPage.resolve guide "rf" = some e ∧ Lists e items ∧
      List.Forall₂ Shows (onThisPage.counted guide) items ∧ items.length = 3 := by
  have hcounted : onThisPage.counted guide =
      [⟨2, "Install", "install"⟩, ⟨2, "Install", "install"⟩, ⟨3, "Options", "options"⟩] := by
    decide
  obtain ⟨hshown, hlists⟩ := toc_lists_counted (w := onThisPage) rfl guide "rf"
  have henough : onThisPage.Suffices (onThisPage.counted guide).length := by
    rw [hcounted, suffices_iff]
    decide
  have hon : ¬ onThisPage.TurnedOff guide := by
    rw [← isHidden_iff]
    decide
  obtain ⟨e, he⟩ := Option.isSome_iff_exists.mp (hshown.mpr ⟨hon, henough⟩)
  obtain ⟨items, hitems, hshows, hlength⟩ := hlists e he
  rw [hcounted] at hlength
  exact ⟨rfl, hcounted, e, items, he, hitems, hshows, hlength⟩

end Widget

end Livery
