import Livery.Text.Ranges

/-!
# White space

`isBlank` is the White_Space property, and `words` splits a text at it.
-/

namespace Livery.Text

/-- The characters with the White_Space property. -/
def blankRanges : Ranges := [
  (9, 13), (32, 32), (133, 133), (160, 160), (5760, 5760), (8192, 8202), (8232, 8233), (8239, 8239),
  (8287, 8287), (12288, 12288)]

/-- Whether a character is white space. -/
def isBlank (c : Char) : Bool := blankRanges.has c

/-- The words of a text together with the word that is being read, in reverse. -/
def wordsFrom : List Char → List Char → List String
  | [], [] => []
  | [], current => [String.ofList current.reverse]
  | c :: rest, current =>
    if isBlank c then
      match current with
      | [] => wordsFrom rest []
      | _ => String.ofList current.reverse :: wordsFrom rest []
    else wordsFrom rest (c :: current)

/-- The maximal runs of characters that are not white space, in order. -/
def words (s : String) : List String := wordsFrom s.toList []

end Livery.Text
