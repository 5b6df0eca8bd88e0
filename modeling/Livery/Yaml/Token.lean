import Livery.Yaml.Folding

/-!
# YAML tokens

A `Token` is a lexical element of a document. Blocks have no marks of their own in the text: their
tokens stand where the indentation opens and closes them. A `Mark` is a place in the text.
-/

namespace Livery.Yaml

/-- A lexical element. -/
inductive Token
  | documentStart
  | documentEnd
  /-- The start of a sequence or mapping by indentation, and the end of either. -/
  | blockSequence
  | blockMapping
  | blockEnd
  /-- Brackets and braces. -/
  | flowSequence
  | flowSequenceEnd
  | flowMapping
  | flowMappingEnd
  /-- The dash in front of an item. -/
  | item
  | comma
  /-- What follows is a key. -/
  | key
  /-- What follows is the value of a key. -/
  | value
  /-- A text without quotes. -/
  | plain (s : String)
  /-- A text in quotes or in a block. -/
  | quoted (s : String)
deriving DecidableEq

/-- A place in a text. -/
structure Mark where
  index : Nat := 0
  line : Nat := 0
  column : Nat := 0
deriving DecidableEq

/-- The place behind a character. -/
def Mark.next (m : Mark) (c : Char) : Mark :=
  if isBreak c then ⟨m.index + 1, m.line + 1, 0⟩ else ⟨m.index + 1, m.line, m.column + 1⟩

/-- Whether there is no character at the start of a text, or a blank or a line break. -/
def startsBlank : List Char → Bool
  | [] => true
  | c :: _ => isBlank c || isBreak c

/-- Whether a line starts with one of the marks of documents. -/
def startsMarker : List Char → Bool
  | '-' :: '-' :: '-' :: rest => startsBlank rest
  | '.' :: '.' :: '.' :: rest => startsBlank rest
  | _ => false

end Livery.Yaml
