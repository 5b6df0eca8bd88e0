import Mathlib.Data.List.Nodup
import Livery.Proofs.Stops

/-!
# Links to neighbours go both ways

The current item of a page is the one whose slug is the last segment of its URL
(`Navigation.slugOf`), and the page of a neighbouring item is the one whose URL ends with a slash
and the slug (`EndsWith`). For slugs without slashes the second rule is the stricter one
(`slugOf_of_endsWith`) : an ending of the URL is its last segment, but the URL may go on with
slashes behind its last segment.

So in a navigation without repeated slugs there is a link to the next page where the items of two
pages follow each other and the URL of the second page ends with its slug (`linksTo_next_iff`), and
a link to the previous page where the URL of the first one does (`linksTo_prev_iff`).
`linksTo_next_prev` compares the two.
-/

namespace Livery

namespace Navigation

/-! ## URLs and slugs -/

/-- A URL ends with a slash and a slug. -/
def EndsWith (url slug : String) : Prop := ∃ rest, url = rest ++ "/" ++ slug

/-- A slug without slashes at the end of a URL is the slug of the page. -/
theorem slugOf_of_endsWith {url slug : String} (h : EndsWith url slug) (hne : slug ≠ "")
    (hslash : '/' ∉ slug.toList) : slugOf url = slug := by
  obtain ⟨rest, rfl⟩ := h
  have hsplit : Text.split '/' (rest ++ "/" ++ slug) = Text.split '/' rest ++ [slug] :=
    Text.split_snoc rest hslash
  simp [slugOf, hsplit, List.filter_append, hne]

theorem any_before?_iff {url slug : String} :
    ((Text.before? slug url).any fun rest => rest.toList.getLast? = some '/') = true ↔
      EndsWith url slug := by
  simp only [Option.any_eq_true, Text.before?_eq_some_iff, decide_eq_true_eq]
  constructor
  · rintro ⟨rest, rfl, hlast⟩
    obtain ⟨front, hfront⟩ := List.getLast?_eq_some_iff.mp hlast
    refine ⟨String.ofList front, ?_⟩
    congr 1
    apply String.ext
    simp [hfront]
  · rintro ⟨rest, rfl⟩
    exact ⟨rest ++ "/", rfl, by simp⟩

/-- The place of an item in a list without repetitions. -/
theorem findIdx?_eq_some_iff_of_nodup {l : List String} (h : l.Nodup) {a : String} {i : ℕ} :
    l.findIdx? (· = a) = some i ↔ l[i]? = some a := by
  rw [List.findIdx?_eq_some_iff_getElem, List.getElem?_eq_some_iff]
  constructor
  · rintro ⟨hi, ha, -⟩
    exact ⟨hi, of_decide_eq_true ha⟩
  · rintro ⟨hi, rfl⟩
    refine ⟨hi, decide_eq_true rfl, fun j hj heq => ?_⟩
    have hsame := (List.Nodup.getElem_inj_iff h).mp (of_decide_eq_true heq)
    omega

end Navigation

theorem Element.mem_childElements_iff {e c : Element} :
    c ∈ e.childElements ↔ .element c ∈ e.children := by
  rw [Element.childElements, List.mem_filterMap]
  constructor
  · rintro ⟨n, hn, hc⟩
    cases n with
    | element d =>
      obtain rfl := Option.some.inj hc
      exact hn
    | _ => cases hc
  · intro hc
    exact ⟨.element c, hc, rfl⟩

namespace Widget

open Navigation

/-! ## Links -/

/-- The links to the neighbours in front of and behind a page. -/
def neighbourLinks (pre : String) (previous next : Option PageEntry) : List Node :=
  (previous.map (neighbourLink pre "prev" "Previous")).toList ++
    (next.map (neighbourLink pre "next" "Next")).toList

/-- Among the links to the neighbours of a page with a URL there is one on a side to another URL. -/
def LinksTo (nav : List Node) (pages : List PageEntry) (pre side url target : String) : Prop :=
  ∃ x, prevNext nav url pages pre = some x ∧ ∃ link ∈ x.childElements,
    link.attr? "class" = some (pre ++ "-prev-next__" ++ side) ∧ link.attr? "href" = some target

section Links

variable {nav : List Node} {pages : List PageEntry} {pre side url target : String}

theorem prevNext_eq_some_iff {x : Element} :
    prevNext nav url pages pre = some x ↔ ∃ previous next,
      neighbours? nav url pages = some (previous, next) ∧
      neighbourLinks pre previous next ≠ [] ∧
      x = ⟨"nav", (∅ : Attrs).insert "class" (pre ++ "-prev-next"),
        neighbourLinks pre previous next⟩ := by
  rw [prevNext, Option.bind_eq_some_iff]
  constructor
  · rintro ⟨⟨previous, next⟩, hn, h⟩
    refine ⟨previous, next, hn, ?_⟩
    cases hl : neighbourLinks pre previous next with
    | nil =>
      rw [neighbourLinks] at hl
      simp [hl] at h
    | cons link links =>
      rw [neighbourLinks] at hl
      exact ⟨by simp, by simpa [hl] using h.symm⟩
  · rintro ⟨previous, next, hn, hne, rfl⟩
    refine ⟨(previous, next), hn, ?_⟩
    cases hl : neighbourLinks pre previous next with
    | nil => exact absurd hl hne
    | cons link links =>
      rw [neighbourLinks] at hl
      simp only [hl]

theorem mem_neighbourLinks_iff {previous next : Option PageEntry} {n : Node} :
    n ∈ neighbourLinks pre previous next ↔
      (∃ p, previous = some p ∧ n = neighbourLink pre "prev" "Previous" p) ∨
        ∃ p, next = some p ∧ n = neighbourLink pre "next" "Next" p := by
  simp only [neighbourLinks, List.mem_append, Option.mem_toList, Option.map_eq_some_iff,
    eq_comm (a := n)]

theorem isLink_iff {link : Element} {place label : String} {p : PageEntry}
    (h : .element link = neighbourLink pre place label p) :
    (link.attr? "class" = some (pre ++ "-prev-next__" ++ side) ∧
      link.attr? "href" = some target) ↔ side = place ∧ p.url = target := by
  obtain rfl := Node.element.inj h
  simp [Element.attr?, Dict.get?_insert, eq_comm]

/-- There is a link on a side to the page that is the neighbour on this side. -/
theorem linksTo_iff :
    LinksTo nav pages pre side url target ↔ ∃ previous next,
      neighbours? nav url pages = some (previous, next) ∧
      ((∃ p, previous = some p ∧ side = "prev" ∧ p.url = target) ∨
        ∃ p, next = some p ∧ side = "next" ∧ p.url = target) := by
  constructor
  · rintro ⟨x, hx, link, hlink, hreads⟩
    obtain ⟨previous, next, hn, -, rfl⟩ := prevNext_eq_some_iff.mp hx
    refine ⟨previous, next, hn, ?_⟩
    rcases mem_neighbourLinks_iff.mp (Element.mem_childElements_iff.mp hlink) with
      ⟨p, hp, heq⟩ | ⟨p, hp, heq⟩
    · exact Or.inl ⟨p, hp, (isLink_iff heq).mp hreads⟩
    · exact Or.inr ⟨p, hp, (isLink_iff heq).mp hreads⟩
  · rintro ⟨previous, next, hn, hside⟩
    have hlink : ∃ link, .element link ∈ neighbourLinks pre previous next ∧
        link.attr? "class" = some (pre ++ "-prev-next__" ++ side) ∧
        link.attr? "href" = some target := by
      rcases hside with ⟨p, hp, hreads⟩ | ⟨p, hp, hreads⟩
      · exact ⟨_, mem_neighbourLinks_iff.mpr (Or.inl ⟨p, hp, rfl⟩), (isLink_iff rfl).mpr hreads⟩
      · exact ⟨_, mem_neighbourLinks_iff.mpr (Or.inr ⟨p, hp, rfl⟩), (isLink_iff rfl).mpr hreads⟩
    obtain ⟨link, hmem, hreads⟩ := hlink
    exact ⟨_, prevNext_eq_some_iff.mpr ⟨previous, next, hn, List.ne_nil_of_mem hmem, rfl⟩, link,
      Element.mem_childElements_iff.mpr hmem, hreads⟩

end Links

/-! ## Pages of items -/

/-- The item of a page stands right in front of the item of another one. -/
def Follows (nav : List Node) (p q : PageEntry) : Prop :=
  ∃ i, (slugs nav)[i]? = some (slugOf p.url) ∧ (slugs nav)[i + 1]? = some (slugOf q.url)

section Pages

variable {nav : List Node} {pages : List PageEntry} {pre : String}

/-- The page of an item ends with the slug, which is the slug of the page. -/
theorem endsWith_of_pageOfSlug? {slug : String} {p : PageEntry} (hslash : '/' ∉ slug.toList)
    (h : pageOfSlug? pages slug = some p) :
    p ∈ pages ∧ EndsWith p.url slug ∧ slugOf p.url = slug := by
  unfold pageOfSlug? at h
  split at h
  · cases h
  · rename_i hne
    have hends : EndsWith p.url slug := any_before?_iff.mp (by simpa using List.find?_some h)
    exact ⟨List.mem_of_find?_eq_some h, hends, slugOf_of_endsWith hends hne hslash⟩

/-- Among pages with different slugs, a slug has the page whose URL ends with it. -/
theorem pageOfSlug?_eq_some (hpages : (pages.map fun p => slugOf p.url).Nodup) {slug : String}
    (hne : slug ≠ "") (hslash : '/' ∉ slug.toList) {p : PageEntry} (hp : p ∈ pages)
    (h : EndsWith p.url slug) : pageOfSlug? pages slug = some p := by
  obtain ⟨q, hq⟩ : ∃ q, pageOfSlug? pages slug = some q := by
    rw [pageOfSlug?, if_neg hne, ← Option.isSome_iff_exists, List.find?_isSome]
    exact ⟨p, hp, any_before?_iff.mpr h⟩
  obtain ⟨hmem, -, hslug⟩ := endsWith_of_pageOfSlug? hslash hq
  rw [hq, List.inj_on_of_nodup_map hpages hmem hp
    (hslug.trans (slugOf_of_endsWith h hne hslash).symm)]

theorem neighbours?_eq_some_iff (hnav : (slugs nav).Nodup) {url : String}
    {previous next : Option PageEntry} :
    neighbours? nav url pages = some (previous, next) ↔ ∃ i,
      (slugs nav)[i]? = some (slugOf url) ∧
      (if i = 0 then none else (slugs nav)[i - 1]?).bind (pageOfSlug? pages) = previous ∧
      (slugs nav)[i + 1]?.bind (pageOfSlug? pages) = next := by
  simp only [neighbours?, Option.map_eq_some_iff, findIdx?_eq_some_iff_of_nodup hnav,
    Prod.mk.injEq]

variable (hnav : (slugs nav).Nodup) (hslugs : ∀ s ∈ slugs nav, s ≠ "" ∧ '/' ∉ s.toList)
  (hpages : (pages.map fun p => slugOf p.url).Nodup) {p q : PageEntry}

include hnav hslugs hpages

omit hnav in
/-- The page at a place of the navigation is the one whose slug stands there, if its URL ends with
it. -/
theorem exists_page_iff {place : Option String} (hplace : ∀ s, place = some s → s ∈ slugs nav)
    (hp : p ∈ pages) :
    (∃ x, place.bind (pageOfSlug? pages) = some x ∧ x.url = p.url) ↔
      place = some (slugOf p.url) ∧ EndsWith p.url (slugOf p.url) := by
  constructor
  · rintro ⟨x, hx, hurl⟩
    obtain ⟨slug, rfl, hx⟩ := Option.bind_eq_some_iff.mp hx
    obtain ⟨-, hends, hslug⟩ := endsWith_of_pageOfSlug? (hslugs slug (hplace slug rfl)).2 hx
    rw [← hurl, hslug]
    exact ⟨rfl, hends⟩
  · rintro ⟨rfl, hends⟩
    obtain ⟨hne, hslash⟩ := hslugs _ (hplace _ rfl)
    exact ⟨p, pageOfSlug?_eq_some hpages hne hslash hp hends, rfl⟩

/-- There is a link to the next page if its item follows and its URL ends with its slug. -/
theorem linksTo_next_iff (hq : q ∈ pages) :
    LinksTo nav pages pre "next" p.url q.url ↔
      Follows nav p q ∧ EndsWith q.url (slugOf q.url) := by
  have hpage := fun i : ℕ => exists_page_iff hslugs hpages
    (fun s (hs : (slugs nav)[i + 1]? = some s) => List.mem_of_getElem? hs) hq
  rw [linksTo_iff]
  constructor
  · rintro ⟨previous, next, hn, ⟨_, _, hside, _⟩ | ⟨x, rfl, -, hurl⟩⟩
    · simp at hside
    obtain ⟨i, hi, -, hx⟩ := (neighbours?_eq_some_iff hnav).mp hn
    obtain ⟨hnext, hends⟩ := (hpage i).mp ⟨x, hx, hurl⟩
    exact ⟨⟨i, hi, hnext⟩, hends⟩
  · rintro ⟨⟨i, hi, hnext⟩, hends⟩
    obtain ⟨x, hx, hurl⟩ := (hpage i).mpr ⟨hnext, hends⟩
    exact ⟨_, _, (neighbours?_eq_some_iff hnav).mpr ⟨i, hi, rfl, rfl⟩, Or.inr ⟨x, hx, rfl, hurl⟩⟩

/-- There is a link to the previous page if the item follows that of this page and its URL ends with
its slug. -/
theorem linksTo_prev_iff (hp : p ∈ pages) :
    LinksTo nav pages pre "prev" q.url p.url ↔
      Follows nav p q ∧ EndsWith p.url (slugOf p.url) := by
  have hpage := fun i : ℕ => exists_page_iff hslugs hpages
    (fun s (hs : (slugs nav)[i]? = some s) => List.mem_of_getElem? hs) hp
  rw [linksTo_iff]
  constructor
  · rintro ⟨previous, next, hn, ⟨x, rfl, -, hurl⟩ | ⟨_, _, hside, _⟩⟩
    · obtain ⟨j, hj, hx, -⟩ := (neighbours?_eq_some_iff hnav).mp hn
      cases j with
      | zero => cases hx
      | succ i =>
        obtain ⟨hprevious, hends⟩ := (hpage i).mp ⟨x, hx, hurl⟩
        exact ⟨⟨i, hprevious, hj⟩, hends⟩
    · simp at hside
  · rintro ⟨⟨i, hprevious, hi⟩, hends⟩
    obtain ⟨x, hx, hurl⟩ := (hpage i).mpr ⟨hprevious, hends⟩
    exact ⟨_, _, (neighbours?_eq_some_iff hnav).mpr ⟨i + 1, hi, rfl, rfl⟩,
      Or.inl ⟨x, hx, rfl, hurl⟩⟩

end Pages

/-! ## Both ways -/

/--
Links to neighbours go both ways up to slashes at the end of URLs. In a navigation with items for
different pages and with slugs that are not empty and have no slashes, and among pages with
different slugs, a link to the next page is answered by a link back exactly if the URL of the first
page ends with its slug, and a link to the previous page exactly if the URL of the second page does.
-/
theorem linksTo_next_prev {nav : List Node} {pages : List PageEntry} (hnav : (slugs nav).Nodup)
    (hslugs : ∀ s ∈ slugs nav, s ≠ "" ∧ '/' ∉ s.toList)
    (hpages : (pages.map fun p => slugOf p.url).Nodup) {p q : PageEntry} (hp : p ∈ pages)
    (hq : q ∈ pages) (pre : String) :
    (LinksTo nav pages pre "next" p.url q.url →
      (LinksTo nav pages pre "prev" q.url p.url ↔ EndsWith p.url (slugOf p.url))) ∧
    (LinksTo nav pages pre "prev" q.url p.url →
      (LinksTo nav pages pre "next" p.url q.url ↔ EndsWith q.url (slugOf q.url))) := by
  rw [linksTo_next_iff hnav hslugs hpages hq, linksTo_prev_iff hnav hslugs hpages hp]
  exact ⟨fun h => and_iff_right h.1, fun h => and_iff_right h.1⟩

/-- Two pages that are neighbours in `basicsNav`. -/
def basicsPages : List PageEntry := [{ url := "/docs/intro" }, { url := "/docs/install" }]

/-- The links between the two pages go both ways. -/
theorem linksTo_next_prev_basics :
    ((slugs basicsNav).Nodup ∧ (∀ s ∈ slugs basicsNav, s ≠ "" ∧ '/' ∉ s.toList) ∧
      (basicsPages.map fun p => slugOf p.url).Nodup) ∧
    LinksTo basicsNav basicsPages "rf" "next" "/docs/intro" "/docs/install" ∧
    LinksTo basicsNav basicsPages "rf" "prev" "/docs/install" "/docs/intro" := by
  have hslugs : slugs basicsNav = ["intro", "install"] := by cbv
  have hpages : (basicsPages.map fun p => slugOf p.url) = ["intro", "install"] := by cbv
  have hnav : (slugs basicsNav).Nodup := by rw [hslugs]; decide
  have hproper : ∀ s ∈ slugs basicsNav, s ≠ "" ∧ '/' ∉ s.toList := by rw [hslugs]; decide
  have hdistinct : (basicsPages.map fun p => slugOf p.url).Nodup := by rw [hpages]; decide
  have hnext : LinksTo basicsNav basicsPages "rf" "next" "/docs/intro" "/docs/install" :=
    linksTo_iff.mpr ⟨none, some { url := "/docs/install" }, by cbv, Or.inr ⟨_, rfl, rfl, rfl⟩⟩
  refine ⟨⟨hnav, hproper, hdistinct⟩, hnext, ?_⟩
  refine ((linksTo_next_prev hnav hproper hdistinct (p := { url := "/docs/intro" })
    (q := { url := "/docs/install" }) ?_ ?_ "rf").1 hnext).mpr ⟨"/docs", by cbv⟩
  · exact List.mem_cons_self
  · exact List.mem_cons_of_mem _ List.mem_cons_self

/-- `basicsPages` with a slash at the end of the first URL. -/
def slashedPages : List PageEntry := [{ url := "/docs/intro/" }, { url := "/docs/install" }]

/-- A navigation with a slash in a slug. -/
def nestedNav : List Node := [navItem "intro", navItem "guide/install"]

/-- The pages of `nestedNav`. -/
def nestedPages : List PageEntry := [{ url := "/docs/intro" }, { url := "/docs/guide/install" }]

/-- There is no link back to a page whose URL ends with a slash, or from a page whose item has a
slash in its slug. -/
theorem no_link_back :
    (((slugs basicsNav).Nodup ∧ (∀ s ∈ slugs basicsNav, s ≠ "") ∧
        (slashedPages.map fun p => slugOf p.url).Nodup) ∧
      LinksTo basicsNav slashedPages "rf" "next" "/docs/intro/" "/docs/install" ∧
      ¬ LinksTo basicsNav slashedPages "rf" "prev" "/docs/install" "/docs/intro/") ∧
    ((slugs nestedNav).Nodup ∧ (∀ s ∈ slugs nestedNav, s ≠ "") ∧
        (nestedPages.map fun p => slugOf p.url).Nodup) ∧
      LinksTo nestedNav nestedPages "rf" "next" "/docs/intro" "/docs/guide/install" ∧
      ¬ LinksTo nestedNav nestedPages "rf" "prev" "/docs/guide/install" "/docs/intro" := by
  have hbasics : slugs basicsNav = ["intro", "install"] := by cbv
  have hslashed : (slashedPages.map fun p => slugOf p.url) = ["intro", "install"] := by cbv
  have hnested : slugs nestedNav = ["intro", "guide/install"] := by cbv
  have hpages : (nestedPages.map fun p => slugOf p.url) = ["intro", "install"] := by cbv
  rw [hbasics, hslashed, hnested, hpages]
  refine ⟨⟨⟨by decide, by decide, by decide⟩, ?next, ?prev⟩,
    ⟨by decide, by decide, by decide⟩, ?next', ?prev'⟩
  case next => exact linksTo_iff.mpr ⟨none, some { url := "/docs/install" }, by cbv,
    Or.inr ⟨_, rfl, rfl, rfl⟩⟩
  case prev =>
    have hback : ¬ EndsWith "/docs/intro/" (slugOf "/docs/intro/") := by
      rw [← any_before?_iff, Bool.not_eq_true]
      cbv
    have hnav : (slugs basicsNav).Nodup := by rw [hbasics]; decide
    have hproper : ∀ s ∈ slugs basicsNav, s ≠ "" ∧ '/' ∉ s.toList := by rw [hbasics]; decide
    have hdistinct : (slashedPages.map fun p => slugOf p.url).Nodup := by rw [hslashed]; decide
    intro h
    exact hback ((linksTo_prev_iff hnav hproper hdistinct (p := { url := "/docs/intro/" })
      (q := { url := "/docs/install" }) List.mem_cons_self).mp h).2
  case next' => exact linksTo_iff.mpr ⟨none, some { url := "/docs/guide/install" }, by cbv,
    Or.inr ⟨_, rfl, rfl, rfl⟩⟩
  case prev' =>
    have hslug : slugOf "/docs/guide/install" = "install" := by cbv
    have hlost : ["intro", "guide/install"].findIdx? (· = "install") = none := by decide
    simp [linksTo_iff, neighbours?, hnested, hslug, hlost]

end Widget

end Livery
