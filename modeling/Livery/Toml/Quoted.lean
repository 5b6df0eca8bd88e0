import Livery.Text.Numeral

/-!
# TOML texts

A text stands in quotes of one of four kinds. Double quotes allow escapes and single quotes do not;
three quotes of a kind allow line breaks, of which one right behind the opening quotes does not
count. `Toml.quoted?` reads a text of any kind and returns what stands behind it.
-/

namespace Livery.Toml

open Text (hexValue?)

/-- A reader of something at the start of a text, which returns the rest. -/
abbrev Reader (α : Type) := List Char → Option (α × List Char)

/-- Whether a character may stand in a text as it is: anything but control characters. -/
def isPlain (c : Char) : Bool := c = '\t' ∨ (0x20 ≤ c.toNat ∧ c.toNat ≠ 0x7F)

/-- The character of a code in hexadecimal digits, unless the code has none. -/
def coded? (digits : List Char) : Option Char :=
  (Text.basedValue? 16 digits).bind fun n =>
    if n < 0xD800 ∨ (0xE000 ≤ n ∧ n < 0x110000) then some (Char.ofNat n) else none

/-- The character that a letter behind a backslash stands for. -/
def escaped? (c : Char) : Option Char :=
  if c = '"' ∨ c = '\\' then some c
  else if c = 'b' then some '\x08'
  else if c = 't' then some '\t'
  else if c = 'n' then some '\n'
  else if c = 'f' then some '\x0c'
  else if c = 'r' then some '\r'
  else none

/-- Puts a character in front of what a reader has read. -/
def andThen (c : Char) (rest : Option (List Char × List Char)) :
    Option (List Char × List Char) :=
  rest.map fun p => (c :: p.1, p.2)

/-- A text up to its closing double quote. -/
def basic? : Reader (List Char)
  | [] => none
  | '"' :: rest => some ([], rest)
  | '\\' :: 'u' :: a :: b :: c :: d :: rest =>
    (coded? [a, b, c, d]).bind fun x => andThen x (basic? rest)
  | '\\' :: 'U' :: a :: b :: c :: d :: e :: f :: g :: h :: rest =>
    (coded? [a, b, c, d, e, f, g, h]).bind fun x => andThen x (basic? rest)
  | '\\' :: c :: rest => (escaped? c).bind fun x => andThen x (basic? rest)
  | c :: rest => if isPlain c then andThen c (basic? rest) else none

/-- Whether a line ends behind blanks. -/
def endsLine (cs : List Char) : Bool :=
  (cs.dropWhile fun c => c = ' ' ∨ c = '\t').head? = some '\n'

/--
A text up to its three closing double quotes, in front of which two more may stand. A backslash at
the end of a line takes out the line break and all blanks and line breaks behind it (`skipping`).
-/
def multiBasic? : (skipping : Bool) → Reader (List Char)
  | _, [] => none
  | _, '"' :: '"' :: '"' :: '"' :: '"' :: rest => some (['"', '"'], rest)
  | _, '"' :: '"' :: '"' :: '"' :: rest => some (['"'], rest)
  | _, '"' :: '"' :: '"' :: rest => some ([], rest)
  | _, '\\' :: 'u' :: a :: b :: c :: d :: rest =>
    (coded? [a, b, c, d]).bind fun x => andThen x (multiBasic? false rest)
  | _, '\\' :: 'U' :: a :: b :: c :: d :: e :: f :: g :: h :: rest =>
    (coded? [a, b, c, d, e, f, g, h]).bind fun x => andThen x (multiBasic? false rest)
  | _, '\\' :: c :: rest =>
    if endsLine (c :: rest) then multiBasic? true (c :: rest)
    else (escaped? c).bind fun x => andThen x (multiBasic? false rest)
  | skipping, c :: rest =>
    if skipping ∧ (c = ' ' ∨ c = '\t' ∨ c = '\n') then multiBasic? true rest
    else if isPlain c ∨ c = '\n' then andThen c (multiBasic? false rest)
    else none

/-- A text up to its closing single quote. -/
def literal? : Reader (List Char)
  | [] => none
  | '\'' :: rest => some ([], rest)
  | c :: rest => if isPlain c then andThen c (literal? rest) else none

/-- A text up to its three closing single quotes, in front of which two more may stand. -/
def multiLiteral? : Reader (List Char)
  | [] => none
  | '\'' :: '\'' :: '\'' :: '\'' :: '\'' :: rest => some (['\'', '\''], rest)
  | '\'' :: '\'' :: '\'' :: '\'' :: rest => some (['\''], rest)
  | '\'' :: '\'' :: '\'' :: rest => some ([], rest)
  | c :: rest => if isPlain c ∨ c = '\n' then andThen c (multiLiteral? rest) else none

/-- The text without a line break at its start. -/
def withoutBreak : List Char → List Char
  | '\n' :: rest => rest
  | cs => cs

/-- A text in quotes on one line. -/
def quotedLine? : Reader String
  | '"' :: rest => (basic? rest).map fun p => (String.ofList p.1, p.2)
  | '\'' :: rest => (literal? rest).map fun p => (String.ofList p.1, p.2)
  | _ => none

/-- A text in quotes. -/
def quoted? : Reader String
  | '"' :: '"' :: '"' :: rest =>
    (multiBasic? false (withoutBreak rest)).map fun p => (String.ofList p.1, p.2)
  | '\'' :: '\'' :: '\'' :: rest =>
    (multiLiteral? (withoutBreak rest)).map fun p => (String.ofList p.1, p.2)
  | cs => quotedLine? cs

end Livery.Toml
