import Livery.Json.Display
import Livery.Page.Coding
import Livery.Text.Numeral
import Livery.Text.Split

/-!
# Paths into page data

A dotted path such as `frontmatter.tags.0` names a value of a page. `Json.member?` is one step into
a value, `Json.walk?` follows a list of steps, and `Page.lookup?` starts at the part of the page
that the first segment names.
-/

namespace Livery

namespace Json

/-- The number that a segment writes: decimal digits, with or without a plus sign in front. -/
def index? (segment : String) : Option Nat :=
  Text.natural? <| match segment.toList with
    | '+' :: rest => rest
    | cs => cs

/--
The value one segment further: a field of an object, an item of an array, or the number of
characters of a text, which is its `length`.
-/
def member? (v : Json) (segment : String) : Option Json :=
  match v with
  | .obj fields => fields.lookup segment
  | .arr items => (index? segment).bind fun i => items[i]?
  | .str s => if segment = "length" then some (ofNat s.length) else none
  | _ => none

/-- The value that is reached along the segments. -/
def walk? (v : Json) (segments : List String) : Option Json := segments.foldlM member? v

end Json

namespace Page

/-- The part of a page that the first segment of a path names. -/
def root? (p : Page) (segment : String) : Option Json :=
  match segment with
  | "title" => some (.str p.title)
  | "url" => some (.str p.url)
  | "frontmatter" => some p.frontmatterJson
  | "pages" => some p.pagesJson
  | "headings" => some p.headingsJson
  | "regions" => some p.regionsJson
  | "renderable" => some ((p.renderable.map Node.toJson).getD .null)
  | _ => none

/-- The value that a list of segments names; a value of the front matter is taken directly. -/
def lookupSegments? (p : Page) : List String → Option Json
  | "frontmatter" :: key :: rest => (p.frontmatter.get? key).bind fun v => v.walk? rest
  | segment :: rest => (p.root? segment).bind fun v => v.walk? rest
  | [] => none

/-- The value that a dotted path names. -/
def lookup? (p : Page) (path : String) : Option Json := p.lookupSegments? (Text.split '.' path)

/-- The text of the value that a path names, empty if there is none. -/
def lookupText (p : Page) (path : String) : String := ((p.lookup? path).map Json.display).getD ""

/-- Whether a path names a value that counts as present. -/
def has (p : Page) (path : String) : Bool := (p.lookup? path).any Json.isTruthy

/-- Whether a front matter key has a value that counts as present. -/
def flag (p : Page) (key : String) : Bool := (p.frontmatter.get? key).any Json.isTruthy

end Page

end Livery
