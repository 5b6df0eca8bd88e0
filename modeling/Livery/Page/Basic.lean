import Livery.Document.Node
import Livery.Json.Basic

/-!
# Pages

A `Page` is what a layout has to work with: the content of the page, named regions such as the
navigation, the title and the URL, all pages of the site, the front matter and the headings.
-/

namespace Livery

/-- A named region of content. -/
structure Region where
  name : String := ""
  /-- How the region combines with an inherited one. -/
  mode : String := ""
  content : List Node := []

/-- A page of the site. -/
structure PageEntry where
  url : String
  title : String := ""
  draft : Bool := false
  version : Option String := none
  /-- The group of pages that are versions of each other. -/
  versionGroup : Option String := none
deriving DecidableEq

/-- A heading of the page. -/
structure Heading where
  level : Nat
  text : String
  id : String
deriving DecidableEq

/-- The data of a page. -/
structure Page where
  /-- The content of the page. -/
  renderable : Option Node := none
  regions : Dict Region := ∅
  title : String := ""
  url : String := ""
  pages : List PageEntry := []
  /-- Values that the author of the page set. -/
  frontmatter : Dict Json := ∅
  /-- The headings of the page in document order. -/
  headings : List Heading := []

instance : Inhabited Page := ⟨{}⟩

end Livery
