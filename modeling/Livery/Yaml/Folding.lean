/-!
# Folded texts

A text that goes over several lines is folded: the line break between two lines becomes a blank, and
further line breaks stay. `fold` does this for the `Piece`s of a text, in which blanks and line
breaks are told apart from the characters of the text.
-/

namespace Livery.Yaml

/-- Whether a character is a blank. -/
def isBlank (c : Char) : Bool := c = ' ' ∨ c = '\t'

/-- Whether a character breaks lines. -/
def isBreak (c : Char) : Bool := c = '\n' ∨ c = '\u2028' ∨ c = '\u2029'

/-- A piece of a text in the form in which it is written. -/
inductive Piece
  | char (c : Char)
  | blank (c : Char)
  | newline (c : Char)
  /-- A line break that is taken out with the blanks behind it. -/
  | joined
deriving DecidableEq

/-- Blanks and line breaks that follow each other. -/
structure Gap where
  blanks : List Char := []
  breaks : List Char := []
  /-- Whether the gap starts with a line break that is taken out. -/
  joined : Bool := false

namespace Gap

/-- Whether the gap goes over the end of a line. -/
def isBroken (g : Gap) : Bool := g.joined || !g.breaks.isEmpty

/-- The gap with one more blank, which does not count at the start of a line. -/
def addBlank (g : Gap) (c : Char) : Gap :=
  if g.isBroken then g else { g with blanks := g.blanks ++ [c] }

/-- The gap with one more line break. -/
def addBreak (g : Gap) (c : Char) : Gap := { g with breaks := g.breaks ++ [c] }

/-- What the gap becomes. -/
def text (g : Gap) : List Char :=
  if g.joined then g.breaks
  else
    match g.breaks with
    | [] => g.blanks
    | ['\n'] => [' ']
    | '\n' :: more => more
    | breaks => breaks

end Gap

/-- The folded text of pieces behind a gap. -/
def foldFrom (g : Gap) : List Piece → List Char
  | [] => g.text
  | .char c :: rest => g.text ++ c :: foldFrom {} rest
  | .blank c :: rest => foldFrom (g.addBlank c) rest
  | .newline c :: rest => foldFrom (g.addBreak c) rest
  | .joined :: rest => g.text ++ foldFrom { joined := true } rest

/-- The folded text of pieces. -/
def fold (pieces : List Piece) : String := String.ofList (foldFrom {} pieces)

end Livery.Yaml
