import Livery.Text.Breaks
import Livery.Toml.Quoted
import Livery.Toml.Scalar
import Livery.Toml.Table

/-!
# Reading TOML

`Toml.read` reads the value that a document is: an object with the fields of its root table. A
document is a list of lines that set a value or open a table (`document?`); values in brackets and
braces may hold further values (`value?`). Dates are no values here.
-/

namespace Livery.Toml

/-! ## Blanks -/

/-- What stands behind blanks. -/
def skipBlanks (cs : List Char) : List Char := cs.dropWhile fun c => c = ' ' ∨ c = '\t'

/-- What stands behind a comment, if there is one; a comment has no control characters. -/
def skipComment (cs : List Char) : List Char :=
  match cs with
  | '#' :: rest => rest.dropWhile isPlain
  | cs => cs

/-- What stands behind the end of a line, with blanks and a comment in front of it. -/
def lineEnd? (cs : List Char) : Option (List Char) :=
  match skipComment (skipBlanks cs) with
  | [] => some []
  | '\n' :: rest => some rest
  | _ => none

/-- What stands behind blanks, comments and line breaks (`inComment` says where the text starts). -/
def skipSpace : (inComment : Bool) → List Char → List Char
  | _, [] => []
  | false, c :: rest =>
    if c = ' ' ∨ c = '\t' ∨ c = '\n' then skipSpace false rest
    else if c = '#' then skipSpace true rest
    else c :: rest
  | true, c :: rest =>
    if c = '\n' then skipSpace false rest
    else if isPlain c then skipSpace true rest
    else c :: rest

/-! ## Keys -/

/-- Whether a character may stand in a key without quotes. -/
def isKeyChar (c : Char) : Bool := c.isAlphanum || c = '_' || c = '-'

/-- A key without dots. -/
def simpleKey? : Reader String
  | '"' :: rest => quotedLine? ('"' :: rest)
  | '\'' :: rest => quotedLine? ('\'' :: rest)
  | cs =>
    let word := cs.takeWhile isKeyChar
    if word.isEmpty then none else some (String.ofList word, cs.dropWhile isKeyChar)

/-- A key with dots, as a list of at most `fuel` keys. -/
def key? : (fuel : Nat) → Reader (List String)
  | 0, _ => none
  | fuel + 1, cs =>
    (simpleKey? cs).bind fun (k, rest) =>
      match skipBlanks rest with
      | '.' :: more => (key? fuel (skipBlanks more)).map fun (ks, rest) => (k :: ks, rest)
      | _ => some ([k], rest)

/-- The number of keys that dots may join. -/
def keyLimit : Nat := 80

/-- A key as the path of its tables and its last part. -/
def path? : Reader (List String × String) := fun cs =>
  (key? keyLimit cs).bind fun (ks, rest) => ks.getLast?.map fun k => ((ks.dropLast, k), rest)

/-- What stands behind a character. -/
def expect? (c : Char) : List Char → Option (List Char)
  | d :: rest => if d = c then some rest else none
  | [] => none

/-! ## Values -/

/-- Whether a character may stand in a word. -/
def isWordChar (c : Char) : Bool := c.isAlphanum || c = '_' || c = '+' || c = '-' || c = '.'

/-- A value without quotes or brackets. -/
def word? : Reader Json := fun cs =>
  (bare? (cs.takeWhile isWordChar)).map fun v => (v, cs.dropWhile isWordChar)

/-- The nesting that values may have. -/
def nestingLimit : Nat := 79

mutual

/-- A value, with no more than `depth` containers inside each other. -/
def value? (depth : Nat) : (fuel : Nat) → Reader Json
  | 0, _ => none
  | fuel + 1, cs =>
    match cs with
    | '"' :: _ => (quoted? cs).map fun (s, rest) => (.str s, rest)
    | '\'' :: _ => (quoted? cs).map fun (s, rest) => (.str s, rest)
    | '[' :: rest =>
      if depth = 0 then none
      else (items? (depth - 1) fuel (skipSpace false rest)).map fun (l, rest) => (.arr l, rest)
    | '\x7b' :: rest =>
      if depth = 0 then none
      else
        match skipBlanks rest with
        | '\x7d' :: rest => some (.obj [], rest)
        | rest =>
          (pairs? (depth - 1) fuel [] rest).map fun (t, rest) => (.obj (fieldsToJson t), rest)
    | cs => word? cs

/-- The items of an array and its closing bracket. -/
def items? (depth : Nat) : (fuel : Nat) → Reader (List Json)
  | 0, _ => none
  | fuel + 1, cs =>
    match cs with
    | ']' :: rest => some ([], rest)
    | cs =>
      (value? depth fuel cs).bind fun (v, rest) =>
        match skipSpace false rest with
        | ',' :: rest =>
          (items? depth fuel (skipSpace false rest)).map fun (l, rest) => (v :: l, rest)
        | ']' :: rest => some ([v], rest)
        | _ => none

/-- A key and its value. -/
def pair? (depth : Nat) : (fuel : Nat) → Reader ((List String × String) × Json)
  | 0, _ => none
  | fuel + 1, cs => do
    let (path, rest) ← path? cs
    let rest ← expect? '=' (skipBlanks rest)
    let (v, rest) ← value? depth fuel (skipBlanks rest)
    some ((path, v), rest)

/-- The pairs of a table in braces behind those that `fields` holds, and its closing brace. -/
def pairs? (depth : Nat) : (fuel : Nat) → Fields → Reader Fields
  | 0, _, _ => none
  | fuel + 1, fields, cs =>
    (pair? depth fuel cs).bind fun (((path, key), v), rest) =>
      (assign path key v .header fields).bind fun fields =>
        match skipBlanks rest with
        | ',' :: rest => pairs? depth fuel fields (skipBlanks rest)
        | '\x7d' :: rest => some (fields, rest)
        | _ => none

end

/-! ## Documents -/

/-- A document so far: its root table, and the table that values go to. -/
structure Draft where
  root : Fields := []
  /-- The header of the table that values go to. -/
  current : List String := []

/-- The header between the brackets of a line, and what stands behind it. -/
def header? : Reader (List String × String) := fun cs =>
  (path? (skipBlanks cs)).map fun (path, rest) => (path, skipBlanks rest)

/-- A line that is not empty. -/
def line? (fuel : Nat) (d : Draft) (cs : List Char) : Option (Draft × List Char) :=
  match cs with
  | '[' :: '[' :: rest => do
    let ((path, key), rest) ← header? rest
    let rest ← expect? ']' rest
    let rest ← expect? ']' rest
    let root ← openNext path key d.root
    some (⟨root, path ++ [key]⟩, rest)
  | '[' :: rest => do
    let ((path, key), rest) ← header? rest
    let rest ← expect? ']' rest
    let root ← openTable path key d.root
    some (⟨root, path ++ [key]⟩, rest)
  | cs => do
    let (((path, key), v), rest) ← pair? nestingLimit fuel cs
    let root ← update false (assign path key v) d.current .header d.root
    some ({ d with root }, rest)

/-- The lines of a document. -/
def document? : (fuel : Nat) → Draft → List Char → Option Draft
  | 0, _, _ => none
  | fuel + 1, d, cs =>
    match skipSpace false cs with
    | [] => some d
    | cs =>
      (line? fuel d cs).bind fun (d, rest) =>
        (lineEnd? rest).bind fun rest => document? fuel d rest

/-- The value that a document is. -/
def read (s : String) : Option Json :=
  let cs := Text.joinedBreaks (Text.withoutMark s.toList)
  (document? (4 * cs.length + 4) {} cs).map fun d => .obj (fieldsToJson d.root)

end Livery.Toml
