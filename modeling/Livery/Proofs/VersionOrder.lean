import Mathlib.Data.List.Forall2
import Livery.Layout.Widget
import Livery.Proofs.NaturalOrder

/-!
# Versions in natural order

The selector of versions lists the published pages of a group in the natural order of their
versions, and pages with equal versions in the order of the page list (`InVersionOrder`). Nothing
else is in that order (`InVersionOrder.unique`). Each page has one option (`IsOption`), so the order
of the options is the order of the pages.
-/

namespace Livery

namespace Natural

/-- Natural order is total. -/
theorem le_total (s t : String) : (le s t || le t s) = true := by
  rw [le, le, compare_swap s t]
  cases compare s t <;> rfl

theorem le_iff {s t : String} : le s t = true ↔ compare s t ≠ .gt := by
  rw [le, bne_iff_ne]

theorem compare_self (s : String) : compare s s = .eq := compare_eq_eq_iff.mpr rfl

end Natural

/-- Sorting leaves elements in their order that no comparison tells apart. -/
theorem filter_mergeSort {α : Type} {le : α → α → Bool}
    (trans : ∀ a b c, le a b = true → le b c = true → le a c = true)
    (total : ∀ a b, (le a b || le b a) = true) {p : α → Bool}
    (hties : ∀ a b, p a = true → p b = true → le a b = true) (l : List α) :
    (l.mergeSort le).filter p = l.filter p := by
  have hsorted : (l.filter p).Pairwise fun a b => le a b = true :=
    List.pairwise_of_forall_mem_list fun a ha b hb =>
      hties a b (List.of_mem_filter ha) (List.of_mem_filter hb)
  have hsublist : (l.filter p).Sublist ((l.mergeSort le).filter p) := by
    have h := (List.sublist_mergeSort trans total hsorted List.filter_sublist).filter p
    simpa only [List.filter_filter, Bool.and_self] using h
  have hlength : (l.filter p).length = ((l.mergeSort le).filter p).length :=
    ((List.mergeSort_perm l le).filter p).length_eq.symm
  exact (hsublist.eq_of_length hlength).symm

namespace Widget

/-! ## The order of the versions -/

/-- The version of a page as it is compared. -/
def versionOf (p : PageEntry) : String := p.version.getD ""

/-- Whether a page stands where a version does. -/
def standsAt (version : String) (p : PageEntry) : Bool :=
  Natural.compare (versionOf p) version == .eq

theorem standsAt_iff {version : String} {p : PageEntry} :
    standsAt version p = true ↔ Natural.compare (versionOf p) version = .eq :=
  beq_iff_eq

/-- The published pages of a group, in the order of the page list. -/
def published (page : Page) (group : String) : List PageEntry :=
  page.pages.filter fun p => p.versionGroup = some group && !p.draft

/-- The pages are rearranged in the natural order of their versions, and pages that stand on the
same place keep their order. -/
structure InVersionOrder (pages sorted : List PageEntry) : Prop where
  perm : sorted.Perm pages
  ordered : sorted.Pairwise fun p q => Natural.compare (versionOf p) (versionOf q) ≠ .gt
  ties : ∀ version, sorted.filter (standsAt version) = pages.filter (standsAt version)

theorem inVersionOrder_versions (page : Page) (group : String) :
    InVersionOrder (published page group) (versions page group) := by
  have htrans : ∀ p q r : PageEntry, Natural.le (versionOf p) (versionOf q) = true →
      Natural.le (versionOf q) (versionOf r) = true →
      Natural.le (versionOf p) (versionOf r) = true := by
    intro p q r hpq hqr
    rw [Natural.le_iff] at *
    exact Natural.compare_trans hpq hqr
  have htotal : ∀ p q : PageEntry,
      (Natural.le (versionOf p) (versionOf q) || Natural.le (versionOf q) (versionOf p)) = true :=
    fun p q => Natural.le_total _ _
  refine ⟨List.mergeSort_perm _ _, ?_, fun version => ?_⟩
  · exact (List.pairwise_mergeSort htrans htotal _).imp Natural.le_iff.mp
  · refine filter_mergeSort htrans htotal (fun p q hp hq => ?_) _
    rw [standsAt_iff, Natural.compare_eq_eq_iff] at hp hq
    have heq : Natural.compare (versionOf p) (versionOf q) = .eq :=
      Natural.compare_eq_eq_iff.mpr (hp.trans hq.symm)
    rw [Natural.le_iff, heq]
    decide

/-- Two orders of the same pages agree on the page in front. -/
theorem head_eq {p q : PageEntry} {l m : List PageEntry}
    (hp : ∀ r ∈ q :: m, Natural.compare (versionOf p) (versionOf r) ≠ .gt)
    (hq : ∀ r ∈ p :: l, Natural.compare (versionOf q) (versionOf r) ≠ .gt)
    (hties : ∀ version, (p :: l).filter (standsAt version) = (q :: m).filter (standsAt version)) :
    p = q := by
  have hpq := hp q List.mem_cons_self
  have hqp := hq p List.mem_cons_self
  have heq : Natural.compare (versionOf q) (versionOf p) = .eq := by
    rw [Natural.compare_swap] at hpq
    cases h : Natural.compare (versionOf q) (versionOf p) with
    | eq => rfl
    | lt => exact absurd (by rw [h]; rfl) hpq
    | gt => exact absurd h hqp
  have hfront := hties (versionOf p)
  rw [List.filter_cons_of_pos (standsAt_iff.mpr (Natural.compare_self _)),
    List.filter_cons_of_pos (standsAt_iff.mpr heq)] at hfront
  exact List.head_eq_of_cons_eq hfront

/-- There is only one order of the pages. -/
theorem InVersionOrder.unique {pages l m : List PageEntry} (hl : InVersionOrder pages l)
    (hm : InVersionOrder pages m) : l = m := by
  have hperm := hl.perm.trans hm.perm.symm
  have hties := fun version => (hl.ties version).trans (hm.ties version).symm
  have hordered := hl.ordered
  have hordered' := hm.ordered
  clear hl hm
  induction l generalizing m with
  | nil => exact hperm.nil_eq
  | cons p l ih =>
    cases m with
    | nil => exact absurd hperm.eq_nil (List.cons_ne_nil _ _)
    | cons q m =>
      have hrefl : ∀ r : PageEntry, Natural.compare (versionOf r) (versionOf r) ≠ .gt := by
        intro r
        rw [Natural.compare_self]
        decide
      have hfirst : ∀ r ∈ p :: l, Natural.compare (versionOf p) (versionOf r) ≠ .gt :=
        List.forall_mem_cons.mpr ⟨hrefl p, fun _ => List.rel_of_pairwise_cons hordered⟩
      have hfirst' : ∀ r ∈ q :: m, Natural.compare (versionOf q) (versionOf r) ≠ .gt :=
        List.forall_mem_cons.mpr ⟨hrefl q, fun _ => List.rel_of_pairwise_cons hordered'⟩
      obtain rfl : p = q := head_eq (fun r hr => hfirst r (hperm.mem_iff.mpr hr))
        (fun r hr => hfirst' r (hperm.mem_iff.mp hr)) hties
      refine congrArg (p :: ·) (ih (hperm.cons_inv) (fun version => ?_) hordered.of_cons
        hordered'.of_cons)
      have hrest := hties version
      by_cases hp : standsAt version p = true
      · rw [List.filter_cons_of_pos hp, List.filter_cons_of_pos hp] at hrest
        exact List.tail_eq_of_cons_eq hrest
      · rwa [List.filter_cons_of_neg hp, List.filter_cons_of_neg hp] at hrest

/-! ## The selector -/

/-- The option of a page has the URL of the page for its value and shows its version. It is selected
if the page is the one at `url`, and no other option is. -/
inductive IsOption (url : String) (p : PageEntry) : Node → Prop
  | element {option : Element} (name : option.name = "option")
      (value : option.attr? "value" = some p.url)
      (selected : option.attr? "selected" = if p.url = url then some "" else none)
      (text : option.children = [.text (versionOf p)]) : IsOption url p (.element option)

theorem isOption_versionOption (url : String) (p : PageEntry) :
    IsOption url p (versionOption url p) := by
  by_cases h : p.url = url
  · rw [versionOption, if_pos h]
    exact .element rfl rfl (by rw [if_pos h]; rfl) rfl
  · rw [versionOption, if_neg h]
    exact .element rfl rfl (by rw [if_neg h]; rfl) rfl

/-- The options of a list of pages stand in the order of the pages. -/
theorem forall₂_isOption (url : String) (pages : List PageEntry) :
    List.Forall₂ (IsOption url) pages (pages.map (versionOption url)) :=
  List.forall₂_map_right_iff.mpr
    (List.forall₂_same.mpr fun p _ => isOption_versionOption url p)

theorem frontmatterText?_eq {page : Page} {key : String} {v : Json}
    (hget : page.frontmatter.get? key = some v) (hv : v.isTruthy = true) :
    frontmatterText? page key = some v.display := by
  rw [frontmatterText?, hget, Option.filter_some, if_pos hv, Option.map_some]

/-- The element of a selector with these options. -/
def selector (pre : String) (options : List Node) : Element :=
  { name := "nav"
    attrs := ((∅ : Attrs).insert "class" (pre ++ "-version-switcher")).insert
      "data-version-switcher" ""
    children :=
      [textElement "label" (pre ++ "-version-switcher__label") "Version",
       .element
         { name := "select"
           attrs := (∅ : Attrs).insert "class" (pre ++ "-version-switcher__select")
           children := options }] }

/-- A page with a version in a group of versions has a selector of the published pages of the group
in the order of their versions, unless there are fewer than two. -/
theorem versionSwitcher_eq {page : Page} {v g : Json}
    (hversion : page.frontmatter.get? "version" = some v) (hv : v.isTruthy = true)
    (hgroup : page.frontmatter.get? "versionGroup" = some g) (hg : g.isTruthy = true)
    (pre : String) :
    versionSwitcher page pre =
      if (published page g.display).length < 2 then none
      else some (selector pre ((versions page g.display).map (versionOption page.url))) := by
  have hlength : (versions page g.display).length = (published page g.display).length :=
    (inVersionOrder_versions page g.display).perm.length_eq
  rw [versionSwitcher, frontmatterText?_eq hversion hv, frontmatterText?_eq hgroup hg]
  simp only [Option.bind_eq_bind, Option.bind_some, hlength, selector]

/-- The natural order of versions is a total preorder that the loop through both texts computes and
that takes texts with the same tokens for equal, and the selector of a page with a version has one
option for each published page of the group in this order, unless there are fewer than two. -/
theorem versions_in_natural_order :
    (∀ s t, Natural.compare s t = Natural.scan s.toList t.toList) ∧
    (∀ s, Natural.compare s s = .eq) ∧
    (∀ s t, Natural.compare t s = (Natural.compare s t).swap) ∧
    (∀ s t u, Natural.compare s t ≠ .gt → Natural.compare t u ≠ .gt →
      Natural.compare s u ≠ .gt) ∧
    (∀ s t, Natural.compare s t = .eq ↔ Natural.tokens s = Natural.tokens t) ∧
    ∀ (page : Page) (pre : String) (v g : Json),
      page.frontmatter.get? "version" = some v → v.isTruthy = true →
      page.frontmatter.get? "versionGroup" = some g → g.isTruthy = true →
      (versionSwitcher page pre = none ↔ (published page g.display).length < 2) ∧
      ∀ e, versionSwitcher page pre = some e →
        ∃ sorted options, InVersionOrder (published page g.display) sorted ∧
          List.Forall₂ (IsOption page.url) sorted options ∧ e = selector pre options := by
  refine ⟨Natural.compare_eq_scan, Natural.compare_self, Natural.compare_swap,
    fun s t u => Natural.compare_trans, fun s t => ?_, ?_⟩
  · rw [Natural.compare_eq_eq_iff, Natural.key_eq_tokens, Natural.key_eq_tokens]
  · intro page pre v g hversion hv hgroup hg
    rw [versionSwitcher_eq hversion hv hgroup hg]
    split
    · rename_i hfew
      exact ⟨iff_of_true rfl hfew, fun e he => by cases he⟩
    · rename_i hmany
      refine ⟨iff_of_false (Option.some_ne_none _) hmany, fun e he => ?_⟩
      exact ⟨_, _, inVersionOrder_versions page g.display, forall₂_isOption page.url _,
        (Option.some.inj he).symm⟩

/-- The entry of a version of the manual. -/
def edition (url version : String) : PageEntry where
  url := url
  version := some version
  versionGroup := some "manual"

/-- A page of a manual with a draft, two versions that count as equal, and a page of another
group. -/
def manual : Page where
  url := "/v2/"
  frontmatter := Dict.ofList [("version", .str "2.0"), ("versionGroup", .str "manual")]
  pages :=
    [edition "/v10/" "10.0", { edition "/v3/" "3.0" with draft := true }, edition "/v2/" "2.0",
     edition "/v02/" "02.00", { edition "/faq/" "1.0" with versionGroup := some "faq" }]

theorem versions_in_natural_order_manual :
    manual.frontmatter.get? "version" = some (.str "2.0") ∧
    manual.frontmatter.get? "versionGroup" = some (.str "manual") ∧
    (Json.str "2.0").isTruthy = true ∧ (Json.str "manual").isTruthy = true ∧
    (published manual "manual").map PageEntry.url = ["/v10/", "/v2/", "/v02/"] ∧
    Natural.compare "2.0" "02.00" ≠ .gt ∧ Natural.compare "02.00" "10.0" ≠ .gt ∧
    Natural.compare "2.0" "10.0" ≠ .gt ∧
    ∃ current equal last : Element,
      versionSwitcher manual "rf" =
        some (selector "rf" [.element current, .element equal, .element last]) ∧
      InVersionOrder (published manual "manual")
        [edition "/v2/" "2.0", edition "/v02/" "02.00", edition "/v10/" "10.0"] ∧
      IsOption "/v2/" (edition "/v2/" "2.0") (.element current) ∧
      IsOption "/v2/" (edition "/v02/" "02.00") (.element equal) ∧
      IsOption "/v2/" (edition "/v10/" "10.0") (.element last) ∧
      current.attr? "selected" = some "" ∧ equal.attr? "selected" = none ∧
      last.attr? "selected" = none := by
  have hequal : Natural.compare "2.0" "02.00" = .eq := by decide +kernel
  have hbefore : Natural.compare "02.00" "10.0" = .lt := by decide +kernel
  have hversions : versions manual "manual" =
      [edition "/v2/" "2.0", edition "/v02/" "02.00", edition "/v10/" "10.0"] := by
    have hstays : Natural.le "2.0" "02.00" = true := by decide +kernel
    have hmoves : Natural.le "10.0" "2.0" = false := by decide +kernel
    have hmoves' : Natural.le "10.0" "02.00" = false := by decide +kernel
    simp [versions, manual, edition, List.mergeSort, List.MergeSort.Internal.splitInTwo, hstays,
      hmoves, hmoves']
  have hswitcher := versions_in_natural_order.2.2.2.2.2 manual "rf" (.str "2.0") (.str "manual")
    rfl rfl rfl rfl
  have hdisplay : (Json.str "manual").display = "manual" := rfl
  rw [hdisplay] at hswitcher
  have hne : Natural.compare "2.0" "02.00" ≠ .gt := by rw [hequal]; decide
  have hne' : Natural.compare "02.00" "10.0" ≠ .gt := by rw [hbefore]; decide
  refine ⟨rfl, rfl, rfl, rfl, rfl, hne, hne', versions_in_natural_order.2.2.2.1 _ _ _ hne hne', ?_⟩
  cases he : versionSwitcher manual "rf" with
  | none => exact absurd (hswitcher.1.mp he) (by decide)
  | some e =>
    obtain ⟨sorted, options, hsorted, hoptions, rfl⟩ := hswitcher.2 e he
    obtain rfl := hsorted.unique (hversions ▸ inVersionOrder_versions manual "manual")
    obtain _ | ⟨⟨hname, hvalue, hselected, htext⟩, hrest⟩ := hoptions
    obtain _ | ⟨⟨hname', hvalue', hselected', htext'⟩, hrest⟩ := hrest
    obtain _ | ⟨⟨hname'', hvalue'', hselected'', htext''⟩, ⟨⟩⟩ := hrest
    exact ⟨_, _, _, rfl, hsorted, ⟨hname, hvalue, hselected, htext⟩,
      ⟨hname', hvalue', hselected', htext'⟩, ⟨hname'', hvalue'', hselected'', htext''⟩, hselected,
      hselected', hselected''⟩

end Widget

end Livery
