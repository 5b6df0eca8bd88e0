import Livery.Yaml.Text

/-!
# Reading YAML tokens

`Lexer.tokens?` cuts a document into tokens. Indentation is kept as a list of open columns, from
which the tokens of blocks follow. A text or a bracket may turn out to be a key when the colon
behind it is reached, so the place of its token is kept as a `Candidate`, and the token of the key
is put in front of it later. A candidate lasts to the end of its line. There is one for every
bracket that is open.

Anchors, tags and directives are no part of the language that is read here.
-/

namespace Livery.Yaml

/-- A token that may turn out to be a key. -/
structure Candidate where
  /-- The number of tokens in front of it. -/
  position : Nat
  mark : Mark
  /-- Whether the place allows nothing but a key. -/
  required : Bool

/-- The number of characters between the start of a key and its colon. -/
def keyLimit : Nat := 1024

/-- A lexer in the middle of a text. -/
structure Lexer where
  /-- The tokens so far, in reverse. -/
  tokens : List Token := []
  /-- The columns of the open blocks, innermost first. -/
  columns : List Nat := []
  candidate : Option Candidate := none
  /-- The candidates outside of the open brackets, innermost first. -/
  outer : List (Option Candidate) := []
  /-- Whether a key may start here. -/
  keyAllowed : Bool := true
  cursor : Cursor

namespace Lexer

/-- Whether a bracket is open. -/
def inFlow (l : Lexer) : Bool := !l.outer.isEmpty

/-- The lexer with one more token. -/
def push (l : Lexer) (t : Token) : Lexer := { l with tokens := t :: l.tokens }

/-- The lexer behind a number of characters of the line. -/
def skip (l : Lexer) (n : Nat) : Lexer :=
  { l with cursor := ⟨l.cursor.mark.advance n, l.cursor.rest.drop n⟩ }

/-- The first column that belongs to the innermost block. -/
def base (l : Lexer) : Nat :=
  match l.columns with
  | [] => 0
  | column :: _ => column + 1

/-! ## Indentation -/

/-- The lexer with all blocks closed that are indented by more than `column` columns. -/
def closeBlocks (column : Option Nat) (l : Lexer) : Lexer :=
  let isDeeper (c : Nat) : Bool := column.all (· < c)
  { l with
    tokens := (l.columns.takeWhile isDeeper).map (fun _ => Token.blockEnd) ++ l.tokens
    columns := l.columns.dropWhile isDeeper }

/-- The lexer with all blocks closed that end in front of a column; brackets keep them open. -/
def unroll (column : Option Nat) (l : Lexer) : Lexer :=
  if l.inFlow then l else l.closeBlocks column

/-- The lexer with a block opened at a column if that is deeper; its token comes at a position. -/
def roll (column position : Nat) (t : Token) (l : Lexer) : Lexer :=
  if l.inFlow ∨ column < l.base then l
  else
    { l with
      columns := column :: l.columns
      tokens := l.tokens.insertIdx (l.tokens.length - position) t }

/-! ## Candidates -/

/-- The lexer without its candidate, unless the place allows nothing but a key. -/
def dropCandidate? (l : Lexer) : Option Lexer :=
  if l.candidate.any Candidate.required then none else some { l with candidate := none }

/-- The lexer with the next token as its candidate, where a key may start. -/
def saveCandidate? (l : Lexer) : Option Lexer :=
  if l.keyAllowed then
    l.dropCandidate?.map fun l =>
      { l with
        candidate := some
          { position := l.tokens.length
            mark := l.cursor.mark
            required := !l.inFlow && l.columns.head? = some l.cursor.mark.column } }
  else some l

/-- Whether a candidate is too far behind a place. -/
def isStale (m : Mark) (c : Candidate) : Bool :=
  c.mark.line < m.line || c.mark.index + keyLimit < m.index

/-- The lexer without the candidates that are too far behind. -/
def dropStale? (l : Lexer) : Option Lexer :=
  let m := l.cursor.mark
  if (l.candidate :: l.outer).any (fun c => c.any fun c => isStale m c && c.required) then none
  else
    let fresh (c : Option Candidate) : Option Candidate := c.filter fun c => !isStale m c
    some { l with candidate := fresh l.candidate, outer := l.outer.map fresh }

/-! ## Blanks -/

/-- The place behind blanks, comments and line breaks, and whether a key may start there. -/
def skipSpace (flow : Bool) :
    (keyAllowed inComment : Bool) → Mark → List Char → Bool × Cursor
  | keyAllowed, _, m, [] => (keyAllowed, ⟨m, []⟩)
  | keyAllowed, inComment, m, c :: rest =>
    if isBreak c then skipSpace flow (keyAllowed || !flow) false (m.next c) rest
    else if inComment ∨ c = '#' then skipSpace flow keyAllowed true (m.next c) rest
    else if c = ' ' ∨ (c = '\t' ∧ (flow ∨ !keyAllowed)) ∨ (c = '\ufeff' ∧ m.column = 0) then
      skipSpace flow keyAllowed false (m.next c) rest
    else (keyAllowed, ⟨m, c :: rest⟩)

/-- The lexer in front of its next token. -/
def advance (l : Lexer) : Lexer :=
  let (keyAllowed, cursor) := skipSpace l.inFlow l.keyAllowed false l.cursor.mark l.cursor.rest
  { l with keyAllowed, cursor }

/-! ## Tokens -/

/-- The mark of a document. -/
def documentMark? (t : Token) (l : Lexer) : Option Lexer :=
  (l.unroll none).dropCandidate?.map fun l =>
    { (l.push t).skip 3 with keyAllowed := false }

/-- An opening bracket, which may start a key. -/
def openFlow? (t : Token) (l : Lexer) : Option Lexer :=
  l.saveCandidate?.map fun l =>
    { (l.push t).skip 1 with
      candidate := none, outer := l.candidate :: l.outer, keyAllowed := true }

/-- A closing bracket. -/
def closeFlow? (t : Token) (l : Lexer) : Option Lexer :=
  l.dropCandidate?.map fun l =>
    let l := { (l.push t).skip 1 with keyAllowed := false }
    match l.outer with
    | c :: outer => { l with candidate := c, outer }
    | [] => l

/-- A comma. -/
def comma? (l : Lexer) : Option Lexer :=
  l.dropCandidate?.map fun l => { (l.push .comma).skip 1 with keyAllowed := true }

/-- The lexer with a block opened here by an indicator, which a line may start with. -/
def indicate? (block : Token) (l : Lexer) : Option Lexer :=
  if l.inFlow then some l
  else if l.keyAllowed then some (l.roll l.cursor.mark.column l.tokens.length block)
  else none

/-- The dash of an item. -/
def item? (l : Lexer) : Option Lexer := do
  let l ← l.indicate? .blockSequence
  let l ← l.dropCandidate?
  some { (l.push .item).skip 1 with keyAllowed := true }

/-- The question mark in front of a key. -/
def key? (l : Lexer) : Option Lexer := do
  let l ← l.indicate? .blockMapping
  let l ← l.dropCandidate?
  some { (l.push .key).skip 1 with keyAllowed := !l.inFlow }

/-- The colon in front of a value, which makes the candidate a key. -/
def value? (l : Lexer) : Option Lexer :=
  match l.candidate with
  | some c =>
    let l := { l with tokens := l.tokens.insertIdx (l.tokens.length - c.position) .key }
    let l := l.roll c.mark.column c.position .blockMapping
    some { (l.push .value).skip 1 with candidate := none, keyAllowed := false }
  | none =>
    (l.indicate? .blockMapping).map fun l =>
      { (l.push .value).skip 1 with keyAllowed := !l.inFlow }

/-- A text in a block. -/
def block? (literal : Bool) (l : Lexer) : Option Lexer := do
  let l ← l.dropCandidate?
  let (s, rest) ← Yaml.block? literal l.base (l.cursor.rest.drop 1)
  let read := l.cursor.rest.take (l.cursor.rest.length - rest.length)
  some { l.push (.quoted s) with
         keyAllowed := true, cursor := ⟨read.foldl Mark.next l.cursor.mark, rest⟩ }

/-- A text in quotes, which may be a key. -/
def quoted? (read : List Piece → Mark → List Char → Option (String × Cursor)) (l : Lexer) :
    Option Lexer := do
  let l ← l.saveCandidate?
  let (s, cursor) ← read [] (l.cursor.mark.advance 1) (l.cursor.rest.drop 1)
  some { l.push (.quoted s) with keyAllowed := false, cursor }

/-- A text without quotes, which may be a key. -/
def plain? (l : Lexer) : Option Lexer := do
  let l ← l.saveCandidate?
  let (s, broken, cursor) ← Yaml.plain? l.inFlow l.base [] [] false l.cursor.mark l.cursor.rest
  some { l.push (.plain s) with keyAllowed := broken, cursor }

/-- Characters that no text without quotes starts with. -/
def indicators : List Char :=
  ['-', '?', ':', ',', '[', ']', '\x7b', '\x7d', '#', '&', '*', '!', '|', '>', '\'', '"', '%',
   '@', '\x60']

/-- Whether a text without quotes starts here. -/
def startsPlain (flow : Bool) (c : Char) (rest : List Char) : Bool :=
  if isBlank c || isBreak c then false
  else if c = '-' then !(rest.head?.any isBlank)
  else if c = '?' || c = ':' then !flow && !startsBlank rest
  else !indicators.contains c

/-- The next token, at a place with a character. -/
def token? (l : Lexer) (c : Char) (rest : List Char) : Option Lexer :=
  let lineStart := l.cursor.mark.column = 0
  if lineStart ∧ c = '%' then none
  else if lineStart ∧ startsMarker (c :: rest) then
    l.documentMark? (if c = '-' then .documentStart else .documentEnd)
  else if c = '[' then l.openFlow? .flowSequence
  else if c = '\x7b' then l.openFlow? .flowMapping
  else if c = ']' then l.closeFlow? .flowSequenceEnd
  else if c = '\x7d' then l.closeFlow? .flowMappingEnd
  else if c = ',' then l.comma?
  else if c = '-' ∧ startsBlank rest then l.item?
  else if c = '?' ∧ (l.inFlow ∨ startsBlank rest) then l.key?
  else if c = ':' ∧ (l.inFlow ∨ startsBlank rest) then l.value?
  else if c = '|' ∧ !l.inFlow then l.block? true
  else if c = '>' ∧ !l.inFlow then l.block? false
  else if c = '\'' then l.quoted? single?
  else if c = '"' then l.quoted? double?
  else if startsPlain l.inFlow c rest then l.plain?
  else none

/-- The tokens of the rest of a text. -/
def run? : (fuel : Nat) → Lexer → Option (List Token)
  | 0, _ => none
  | fuel + 1, l =>
    l.advance.dropStale?.bind fun l =>
      let l := l.unroll (some l.cursor.mark.column)
      match l.cursor.rest with
      | [] => (l.unroll none).dropCandidate?.map fun l => l.tokens.reverse
      | c :: rest => (l.token? c rest).bind (run? fuel)

/-- The tokens of a text. -/
def tokens? (cs : List Char) : Option (List Token) :=
  run? (cs.length + 1) { cursor := ⟨{}, cs⟩ }

end Lexer

end Livery.Yaml
