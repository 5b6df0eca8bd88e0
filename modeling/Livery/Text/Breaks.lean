/-!
# Line breaks

`Text.joinedBreaks` writes every line break that is a carriage return and a line feed as a line
feed.
-/

namespace Livery.Text

/-- The text with two-character line breaks written as line feeds. -/
def joinedBreaks : List Char → List Char
  | '\r' :: '\n' :: rest => '\n' :: joinedBreaks rest
  | c :: rest => c :: joinedBreaks rest
  | [] => []

/-- The text without a byte order mark at its start. -/
def withoutMark : List Char → List Char
  | c :: rest => if c = '\ufeff' then rest else c :: rest
  | [] => []

end Livery.Text
