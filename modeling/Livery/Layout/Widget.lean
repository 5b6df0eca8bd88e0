import Livery.Layout.Config
import Livery.Layout.Navigation
import Livery.Page.Lookup
import Livery.Text.Natural

/-!
# Widgets

`Widget.resolve` makes the element of a widget from the data of a page: the breadcrumb of the page,
its table of contents, the links to its neighbours in the navigation, or a selector of its versions.
A widget without anything to show is left out.
-/

namespace Livery

namespace Widget

/-- An element with a class and a text. -/
def textElement (tag classes text : String) : Node :=
  .element ⟨tag, (∅ : Attrs).insert "class" classes, [.text text]⟩

/-! ## Breadcrumbs -/

/-- The title of the group of a page, and the title of the page. -/
def breadcrumb (nav : List Node) (url title pre : String) : Option Element :=
  (Navigation.category? nav url).map fun category =>
    { name := "div"
      attrs := (∅ : Attrs).insert "class" (pre ++ "-docs-toolbar__breadcrumb")
      children :=
        [textElement "span" (pre ++ "-docs-breadcrumb-category") category,
         textElement "span" (pre ++ "-docs-breadcrumb-sep") "\u203a",
         textElement "span" (pre ++ "-docs-breadcrumb-page") title] }

/-! ## Tables of contents -/

/-- The headings with a level in a range, in document order. -/
def headingsBetween (page : Page) (min max : Nat) : List Heading :=
  page.headings.filter fun h => min ≤ h.level ∧ h.level ≤ max

/-- The entry of a heading. -/
def tocItem (pre : String) (h : Heading) : Node :=
  .element
    { name := "li"
      attrs := ((∅ : Attrs).insert "class" (pre ++ "-on-this-page__item")).insert "data-level"
        (Nat.repr h.level)
      children := [.element ⟨"a", (∅ : Attrs).insert "href" ("#" ++ h.id), [.text h.text]⟩] }

/-- A table of contents over the headings with a level in a range. -/
def toc (page : Page) (pre : String) (min max : Nat) : Option Element :=
  match headingsBetween page min max with
  | [] => none
  | headings =>
    some
      { name := "nav"
        attrs := ((∅ : Attrs).insert "class" (pre ++ "-on-this-page")).insert "data-scrollspy" ""
        children :=
          [textElement "p" (pre ++ "-on-this-page__title") "On this page",
           .element
             { name := "ul"
               attrs := (∅ : Attrs).insert "class" (pre ++ "-on-this-page__list")
               children := headings.map (tocItem pre) }] }

/-! ## Neighbours -/

/-- The first page whose URL ends with a slash and the slug; the empty slug belongs to no page. -/
def pageOfSlug? (pages : List PageEntry) (slug : String) : Option PageEntry :=
  if slug = "" then none
  else pages.find? fun p =>
    (Text.before? slug p.url).any fun rest => rest.toList.getLast? = some '/'

/-- The pages in front of and behind the page with a URL, in the order of the navigation. -/
def neighbours? (nav : List Node) (url : String) (pages : List PageEntry) :
    Option (Option PageEntry × Option PageEntry) :=
  let slugs := Navigation.slugs nav
  (slugs.findIdx? (· = Navigation.slugOf url)).map fun i =>
    let before := if i = 0 then none else slugs[i - 1]?
    (before.bind (pageOfSlug? pages), slugs[i + 1]?.bind (pageOfSlug? pages))

/-- A link to a neighbour. -/
def neighbourLink (pre side label : String) (p : PageEntry) : Node :=
  .element
    { name := "a"
      attrs := ((∅ : Attrs).insert "class" (pre ++ "-prev-next__" ++ side)).insert "href" p.url
      children :=
        [textElement "span" (pre ++ "-prev-next__label") label,
         textElement "span" (pre ++ "-prev-next__title") p.title] }

/-- Links to the pages in front of and behind the page with a URL. -/
def prevNext (nav : List Node) (url : String) (pages : List PageEntry) (pre : String) :
    Option Element :=
  (neighbours? nav url pages).bind fun (previous, next) =>
    match (previous.map (neighbourLink pre "prev" "Previous")).toList ++
        (next.map (neighbourLink pre "next" "Next")).toList with
    | [] => none
    | links => some ⟨"nav", (∅ : Attrs).insert "class" (pre ++ "-prev-next"), links⟩

/-! ## Versions -/

/-- The text of a front matter value that counts as present. -/
def frontmatterText? (page : Page) (key : String) : Option String :=
  ((page.frontmatter.get? key).filter Json.isTruthy).map Json.display

/-- The published pages of a group, in the natural order of their versions. -/
def versions (page : Page) (group : String) : List PageEntry :=
  (page.pages.filter fun p => p.versionGroup = some group && !p.draft).mergeSort fun p q =>
    Natural.le (p.version.getD "") (q.version.getD "")

/-- The option of a version, selected if it is the page with this URL. -/
def versionOption (url : String) (p : PageEntry) : Node :=
  .element
    { name := "option"
      attrs := Dict.ofList (("value", p.url) :: if p.url = url then [("selected", "")] else [])
      children := [.text (p.version.getD "")] }

/-- A selector of the versions of a page, if there are at least two. -/
def versionSwitcher (page : Page) (pre : String) : Option Element := do
  let _ ← frontmatterText? page "version"
  let group ← frontmatterText? page "versionGroup"
  let versions := versions page group
  if versions.length < 2 then none
  else
    some
      { name := "nav"
        attrs := ((∅ : Attrs).insert "class" (pre ++ "-version-switcher")).insert
          "data-version-switcher" ""
        children :=
          [textElement "label" (pre ++ "-version-switcher__label") "Version",
           .element
             { name := "select"
               attrs := (∅ : Attrs).insert "class" (pre ++ "-version-switcher__select")
               children := versions.map (versionOption page.url) }] }

/-! ## Definitions -/

/-- Whether a front matter key is set to `false` and hides the widget. -/
def isHidden (w : Widget) (page : Page) : Bool :=
  match (w.visibility.bind Visibility.toggle).bind page.frontmatter.get? with
  | some (.bool false) => true
  | _ => false

/-- The region that the source of a widget names, with or without `region:` in front. -/
def region? (w : Widget) (page : Page) : Option Region :=
  page.regions.get? ((Text.behind? "region:" w.source).getD w.source)

/-- The least level that a table of contents lists. -/
def minLevel (w : Widget) : Nat := (w.options.bind TocOptions.minLevel).getD 2

/-- The greatest level that a table of contents lists. -/
def maxLevel (w : Widget) : Nat := (w.options.bind TocOptions.maxLevel).getD 3

/-- The number of entries that a table of contents needs. -/
def minCount (w : Widget) : Nat := (w.visibility.bind Visibility.minCount).getD 0

/-- The element of a widget on a page. -/
def resolve (w : Widget) (page : Page) (pre : String) : Option Element :=
  if w.isHidden page then none
  else
    match w.kind with
    | .breadcrumb => (w.region? page).bind fun r => breadcrumb r.content page.url page.title pre
    | .toc =>
      if (headingsBetween page w.minLevel w.maxLevel).length < w.minCount then none
      else toc page pre w.minLevel w.maxLevel
    | .prevNext => (w.region? page).bind fun r => prevNext r.content page.url page.pages pre
    | .versionSwitcher => versionSwitcher page pre

end Widget

end Livery
