import Livery.Document.Coding
import Livery.Page.Basic

/-!
# Pages as JSON

`Page.ofJson?` reads the data of a page and `Page.toJson` writes it; regions, page entries and
headings have the same pair.
-/

namespace Livery

open Json (required defaulted optional decodeText decodeBool decodeList decodeDict decodeRecord)

namespace Region

/-- The names of the fields, in the order of their declaration. -/
def fieldNames : List String := ["name", "mode", "content"]

/-- The region that a value describes. -/
def ofJson? : Json → Option Region :=
  decodeRecord fieldNames fun fields => do
    let name ← defaulted decodeText "" fields "name"
    let mode ← defaulted decodeText "" fields "mode"
    let content ← defaulted (decodeList Node.ofJson?) [] fields "content"
    some { name, mode, content }

/-- The value that describes a region. -/
def toJson (r : Region) : Json :=
  .obj [("name", .str r.name), ("mode", .str r.mode), ("content", .arr (r.content.map Node.toJson))]

end Region

namespace PageEntry

/-- The page entry that a value describes. -/
def ofJson? : Json → Option PageEntry :=
  decodeRecord ["url", "title", "draft", "version", "versionGroup"] fun fields => do
    let url ← required decodeText fields "url"
    let title ← defaulted decodeText "" fields "title"
    let draft ← defaulted decodeBool false fields "draft"
    let version ← optional decodeText fields "version"
    let versionGroup ← optional decodeText fields "versionGroup"
    some { url, title, draft, version, versionGroup }

/-- The value that describes a page entry. -/
def toJson (e : PageEntry) : Json :=
  Json.record
    [("url", some (.str e.url)), ("title", some (.str e.title)), ("draft", some (.bool e.draft)),
     ("version", Json.ofText? e.version), ("versionGroup", Json.ofText? e.versionGroup)]

end PageEntry

namespace Heading

/-- Heading levels are below this bound. -/
def levelBound : Nat := 256

/-- The heading that a value describes. -/
def ofJson? : Json → Option Heading :=
  decodeRecord ["level", "text", "id"] fun fields => do
    let level ← required (Json.decodeBelow levelBound) fields "level"
    let text ← required decodeText fields "text"
    let id ← required decodeText fields "id"
    some { level, text, id }

/-- The value that describes a heading. -/
def toJson (h : Heading) : Json :=
  .obj [("level", Json.ofNat h.level), ("text", .str h.text), ("id", .str h.id)]

end Heading

namespace Page

/-- The names of the fields, in the order of their declaration. -/
def fieldNames : List String :=
  ["renderable", "regions", "title", "url", "pages", "frontmatter", "headings"]

/-- The page data that a value describes. -/
def ofJson? : Json → Option Page :=
  decodeRecord fieldNames fun fields => do
    let renderable ← optional Node.ofJson? fields "renderable"
    let regions ← defaulted (decodeDict Region.ofJson?) ∅ fields "regions"
    let title ← defaulted decodeText "" fields "title"
    let url ← defaulted decodeText "" fields "url"
    let pages ← defaulted (decodeList PageEntry.ofJson?) [] fields "pages"
    let frontmatter ← defaulted (decodeDict Json.decodeAny) ∅ fields "frontmatter"
    let headings ← defaulted (decodeList Heading.ofJson?) [] fields "headings"
    some { renderable, regions, title, url, pages, frontmatter, headings }

/-- The regions as a value. -/
def regionsJson (p : Page) : Json := .obj (p.regions.mapValues fun _ r => r.toJson).entries

/-- The pages of the site as a value. -/
def pagesJson (p : Page) : Json := .arr (p.pages.map PageEntry.toJson)

/-- The front matter as a value. -/
def frontmatterJson (p : Page) : Json := .obj p.frontmatter.entries

/-- The headings as a value. -/
def headingsJson (p : Page) : Json := .arr (p.headings.map Heading.toJson)

/-- The value that describes the data of a page. -/
def toJson (p : Page) : Json :=
  Json.record
    [("renderable", p.renderable.map Node.toJson), ("regions", some p.regionsJson),
     ("title", some (.str p.title)), ("url", some (.str p.url)), ("pages", some p.pagesJson),
     ("frontmatter", some p.frontmatterJson), ("headings", some p.headingsJson)]

end Page

end Livery
