import Livery.Text.Numeral
import Livery.Yaml.Token

/-!
# YAML texts

Readers of texts without quotes (`plain?`), in single quotes (`single?`), in double quotes
(`double?`) and in blocks (`block?`). Each returns the text and what stands behind it.
-/

namespace Livery.Yaml

/-- A place and the text behind it. -/
structure Cursor where
  mark : Mark
  rest : List Char

/-! ## Texts without quotes -/

/-- The brackets, braces and commas of flow collections. -/
def flowMarks : List Char := [',', '[', ']', '\x7b', '\x7d']

/--
A text without quotes, read so far as `done`, then the gap `gap` (both in reverse), which goes over
the end of a line if `broken`. It ends in front of a comment, a less indented line, a mark of a
document, the colon of a key or, inside brackets, one of their marks. Whether the gap behind it goes
over the end of a line is returned with it.
-/
def plain? (flow : Bool) (indent : Nat) :
    (done gap : List Piece) → (broken : Bool) → Mark → List Char → Option (String × Bool × Cursor)
  | done, _, broken, m, [] => some (fold done.reverse, broken, ⟨m, []⟩)
  | done, gap, broken, m, c :: rest =>
    if isBlank c then
      if broken ∧ m.column < indent ∧ c = '\t' then none
      else plain? flow indent done (.blank c :: gap) broken (m.next c) rest
    else if isBreak c then plain? flow indent done (.newline c :: gap) true (m.next c) rest
    else
      let ended : Bool := !gap.isEmpty &&
        ((!flow && m.column < indent) || c = '#' || (m.column = 0 && startsMarker (c :: rest)))
      let isMisplaced : Bool :=
        flow && c = ':' && rest.head?.any fun d => d = '?' || flowMarks.contains d
      if ended then some (fold done.reverse, broken, ⟨m, c :: rest⟩)
      else if isMisplaced then none
      else if (c = ':' ∧ startsBlank rest) ∨ (flow ∧ flowMarks.contains c) then
        some (fold done.reverse, broken, ⟨m, c :: rest⟩)
      else plain? flow indent (.char c :: (gap ++ done)) [] false (m.next c) rest

/-! ## Texts in quotes -/

/-- The piece that a character between quotes is, unless it starts a mark of a document. -/
def pieceAt? (m : Mark) (c : Char) (rest : List Char) : Option Piece :=
  if isBlank c then some (.blank c)
  else if isBreak c then some (.newline c)
  else if m.column = 0 ∧ startsMarker (c :: rest) then none
  else some (.char c)

/-- A text in single quotes, in which a quote is written twice; `done` is in reverse. -/
def single? : (done : List Piece) → Mark → List Char → Option (String × Cursor)
  | _, _, [] => none
  | done, m, '\'' :: '\'' :: rest =>
    single? (.char '\'' :: done) ((m.next '\'').next '\'') rest
  | done, m, '\'' :: rest => some (fold done.reverse, ⟨m.next '\'', rest⟩)
  | done, m, c :: rest =>
    (pieceAt? m c rest).bind fun p => single? (p :: done) (m.next c) rest

/-- The characters that letters behind a backslash stand for. -/
def escapes : List (Char × Char) :=
  [('0', '\x00'), ('a', '\x07'), ('b', '\x08'), ('t', '\t'), ('\t', '\t'), ('n', '\n'),
   ('v', '\x0b'), ('f', '\x0c'), ('r', '\r'), ('e', '\x1b'), (' ', ' '), ('"', '"'), ('/', '/'),
   ('\\', '\\'), ('N', '\u0085'), ('_', '\u00a0'), ('L', '\u2028'), ('P', '\u2029')]

/-- The character of a code in hexadecimal digits, unless the code has none. -/
def coded? (digits : List Char) : Option Char :=
  (Text.basedValue? 16 digits).bind fun n =>
    if n < 0xD800 ∨ (0xE000 ≤ n ∧ n < 0x110000) then some (Char.ofNat n) else none

/-- The place behind a number of characters of a line. -/
def Mark.advance (m : Mark) (n : Nat) : Mark :=
  { m with index := m.index + n, column := m.column + n }

/-- A text in double quotes, with escapes; `done` is in reverse. -/
def double? : (done : List Piece) → Mark → List Char → Option (String × Cursor)
  | _, _, [] => none
  | done, m, '"' :: rest => some (fold done.reverse, ⟨m.next '"', rest⟩)
  | done, m, '\\' :: 'x' :: a :: b :: rest =>
    (coded? [a, b]).bind fun c => double? (.char c :: done) (m.advance 4) rest
  | done, m, '\\' :: 'u' :: a :: b :: c :: d :: rest =>
    (coded? [a, b, c, d]).bind fun x => double? (.char x :: done) (m.advance 6) rest
  | done, m, '\\' :: 'U' :: a :: b :: c :: d :: e :: f :: g :: h :: rest =>
    (coded? [a, b, c, d, e, f, g, h]).bind fun x =>
      double? (.char x :: done) (m.advance 10) rest
  | done, m, '\\' :: c :: rest =>
    if isBreak c then double? (.joined :: done) ((m.next '\\').next c) rest
    else (escapes.lookup c).bind fun x => double? (.char x :: done) (m.advance 2) rest
  | done, m, c :: rest =>
    (pieceAt? m c rest).bind fun p => double? (p :: done) (m.next c) rest

/-! ## Blocks -/

/-- What becomes of the line breaks at the end of a block. -/
inductive Chomping
  | clip
  | strip
  | keep
deriving DecidableEq

/-- The head of a block: its chomping and its additional indentation, if that is given. -/
structure BlockHead where
  chomping : Chomping := .clip
  increment : Option Nat := none

/-- The chomping that a character stands for. -/
def chomping? (c : Char) : Option Chomping :=
  if c = '+' then some .keep else if c = '-' then some .strip else none

/-- The indentation that a digit stands for. -/
def increment? (c : Char) : Option Nat :=
  if c.isDigit ∧ c ≠ '0' then some (Text.digitValue c) else none

/-- The head of a block, with its two indicators in either order, and what stands behind it. -/
def blockHead (cs : List Char) : BlockHead × List Char :=
  match cs with
  | a :: b :: rest =>
    match chomping? a, increment? a, chomping? b, increment? b with
    | some c, _, _, some n => (⟨c, some n⟩, rest)
    | _, some n, some c, _ => (⟨c, some n⟩, rest)
    | some c, _, _, _ => (⟨c, none⟩, b :: rest)
    | _, some n, _, _ => (⟨.clip, some n⟩, b :: rest)
    | _, _, _, _ => ({}, a :: b :: rest)
  | [a] =>
    match chomping? a, increment? a with
    | some c, _ => (⟨c, none⟩, [])
    | _, some n => (⟨.clip, some n⟩, [])
    | _, _ => ({}, [a])
  | [] => ({}, [])

/-- What stands behind the line of a head, where only blanks and a comment may follow. -/
def headEnd? (cs : List Char) : Option (List Char) :=
  let rest := cs.dropWhile isBlank
  let rest := if rest.head? = some '#' then rest.dropWhile (fun c => !isBreak c) else rest
  match rest with
  | [] => some []
  | c :: more => if isBreak c then some more else none

/-- Lines without content: their line breaks, the widest indentation, and what is left behind. -/
structure EmptyLines where
  breaks : List Char
  widest : Nat
  column : Nat
  rest : List Char

/--
The lines without content in front of a line, and the indentation of that line up to `indent`
columns, or all of it without that bound. A tab is no indentation.
-/
def emptyLines? (indent : Option Nat) :
    (breaks : List Char) → (widest column : Nat) → List Char → Option EmptyLines
  | breaks, widest, column, [] => some ⟨breaks, max widest column, column, []⟩
  | breaks, widest, column, c :: rest =>
    let isWithin : Bool := indent.all fun n => column < n
    if isWithin ∧ c = ' ' then emptyLines? indent breaks widest (column + 1) rest
    else if isWithin ∧ c = '\t' then none
    else if isBreak c then emptyLines? indent (breaks ++ [c]) (max widest column) 0 rest
    else some ⟨breaks, max widest column, column, c :: rest⟩

/-- A block while it is read. -/
structure BlockText where
  text : List Char := []
  /-- The line break behind the last line. -/
  lineBreak : List Char := []
  /-- The line breaks of empty lines behind it. -/
  emptyBreaks : List Char := []
  /-- Whether the last line starts with a blank. -/
  indented : Bool := false

namespace BlockText

/-- The block with the line breaks in front of its next line; a folded break becomes a blank. -/
def separated (literal : Bool) (b : BlockText) (nextIndented : Bool) : List Char :=
  if !literal ∧ b.lineBreak = ['\n'] ∧ !b.indented ∧ !nextIndented then
    b.text ++ (if b.emptyBreaks.isEmpty then [' '] else []) ++ b.emptyBreaks
  else b.text ++ b.lineBreak ++ b.emptyBreaks

/-- The block without the line breaks that its chomping takes away. -/
def chomped (b : BlockText) : Chomping → List Char
  | .strip => b.text
  | .clip => b.text ++ b.lineBreak
  | .keep => b.text ++ b.lineBreak ++ b.emptyBreaks

end BlockText

/-- The lines of a block with a known indentation, and what stands behind them. -/
def blockLines? (literal : Bool) (indent : Nat) :
    (fuel : Nat) → BlockText → (column : Nat) → List Char → Option (BlockText × List Char)
  | 0, _, _, _ => none
  | fuel + 1, b, column, cs =>
    if column ≠ indent ∨ cs.isEmpty then some (b, cs)
    else
      let indented := cs.head?.any isBlank
      let line := cs.takeWhile fun c => !isBreak c
      let behind := cs.dropWhile fun c => !isBreak c
      let text := b.separated literal indented ++ line
      (emptyLines? (some indent) [] 0 0 (behind.drop 1)).bind fun e =>
        blockLines? literal indent fuel ⟨text, behind.take 1, e.breaks, indented⟩
          (if behind.isEmpty then indent + line.length else e.column) e.rest

/--
A block behind its indicator: its lines keep their breaks if it is literal, and are folded
otherwise. Without a given indentation, that of the first line with content counts; it is more than
that of the enclosing block, whose next columns start at `base`.
-/
def block? (literal : Bool) (base : Nat) (cs : List Char) : Option (String × List Char) :=
  let (head, rest) := blockHead cs
  (headEnd? rest).bind fun rest =>
    let given := head.increment.map fun n => (base - 1) + n
    (emptyLines? given [] 0 0 rest).bind fun e =>
      let indent := given.getD (max (max e.widest base) 1)
      (blockLines? literal indent (rest.length + 1) { emptyBreaks := e.breaks } e.column
        e.rest).map fun (b, rest) => (String.ofList (b.chomped head.chomping), rest)

end Livery.Yaml
