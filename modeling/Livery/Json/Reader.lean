import Livery.Json.Basic
import Livery.Text.Numeral

/-!
# Reading JSON

`Json.read` reads the value that a text is, with nothing but blanks around it. Two passes do the
work: `Lexer.step` cuts the text into tokens, one character at a time, and `Builder.step` joins the
tokens into a value with a stack of the containers that are still open. Both are folds, so reading
takes one step for each character and each token. The number of open containers may be limited.

A key that is repeated keeps its first place and takes its last value.
-/

namespace Livery.Json

open Text (digitsValue spanDigits hexValue?)

/-- A lexical element of a JSON text. -/
inductive Token
  /-- One of the characters that open, close or separate. -/
  | mark (c : Char)
  | text (s : String)
  | value (v : Json)
deriving Inhabited

/-! ## Numbers -/

/-- An exponent part: none, or a letter, an optional sign and at least one digit. -/
def exponentPart? : List Char → Option Int
  | [] => some 0
  | c :: rest =>
    if c = 'e' ∨ c = 'E' then
      let (negative, digits) := match rest with
        | '+' :: r => (false, r)
        | '-' :: r => (true, r)
        | r => (false, r)
      if digits.isEmpty ∨ !digits.all Char.isDigit then none
      else
        let n : Int := digitsValue digits
        some (if negative then -n else n)
    else none

/-- Integers within these bounds stay integers, and all others become floating-point numbers. -/
def intRange (n : Int) : Bool := -Int.pow 2 63 ≤ n ∧ n < Int.pow 2 64

/--
The number that the digits go on to write behind the number `m`, as far as it fits into 64 bits, and
the digits behind the first one that does not.
-/
def significand (m : Nat) : List Char → Nat × List Char
  | [] => (m, [])
  | c :: rest =>
    let next := 10 * m + digitsValue [c]
    if next < Nat.pow 2 64 then significand next rest else (m, c :: rest)

/-- The powers of ten up to this one are in a table. -/
def greatestPower : Nat := 308

/-- A power of ten from the table. -/
def powerOfTen (n : Nat) : Double := Double.ofNat (Nat.pow 10 n)

/-- The number divided `k` times by the greatest power in the table, unless it becomes zero. -/
def dividedBy : Nat → Double → Double
  | 0, x => x
  | k + 1, x => if x.isZero then x else dividedBy k (x.div (powerOfTen greatestPower))

/--
The number `±m · 10 ^ e`, if it is not beyond the largest finite number. It is computed in double
precision, with a power of ten from the table, so it need not be the number nearest to the decimal
one: `0.9999999999999999` is `1`.
-/
def scaled? (negative : Bool) (m : Nat) (e : Int) : Option Double :=
  let x := Double.ofNat m
  let scaled : Option Double :=
    if m = 0 then some x
    else if 0 ≤ e then
      if e ≤ greatestPower then some (x.mul (powerOfTen e.toNat)) else none
    else
      let n := (-e).toNat
      let k := (n - 1) / greatestPower
      some ((dividedBy k x).div (powerOfTen (n - k * greatestPower)))
  (scaled.filter Double.isFinite).map fun y => Double.ofMagnitude negative y.magnitude

/--
The number that a literal writes, without its sign: digits without a leading zero, then optionally
a fraction and an exponent. A literal without those two is an integer if it fits, and the integer
`-0` is a floating-point number. Digits that do not fit into 64 bits count only by their places.
-/
def unsigned? (negative : Bool) (cs : List Char) : Option Number :=
  let (whole, rest) := spanDigits cs
  if whole.isEmpty ∨ (whole.head? = some '0' ∧ whole.length ≠ 1) then none
  else
    let (m, left) := significand 0 whole
    match rest with
    | [] =>
      let n : Int := if negative then -(m : Int) else m
      if left.isEmpty ∧ intRange n ∧ ¬(negative ∧ m = 0) then some (.int n)
      else (scaled? negative m left.length).map .float
    | '.' :: rest =>
      let (fraction, rest) := spanDigits rest
      if fraction.isEmpty then none
      else
        let (m, beyond) := significand m fraction
        let places : Int := left.length + beyond.length - fraction.length
        (exponentPart? rest).bind fun e => (scaled? negative m (places + e)).map .float
    | rest => (exponentPart? rest).bind fun e => (scaled? negative m (left.length + e)).map .float

/-- The number that a literal writes. -/
def Number.ofLiteral? : List Char → Option Number
  | '-' :: rest => unsigned? true rest
  | cs => unsigned? false cs

/-- The value of a word that is not in quotes. -/
def wordValue? (cs : List Char) : Option Json :=
  if cs = ['n', 'u', 'l', 'l'] then some .null
  else if cs = ['t', 'r', 'u', 'e'] then some (.bool true)
  else if cs = ['f', 'a', 'l', 's', 'e'] then some (.bool false)
  else (Number.ofLiteral? cs).map .num

/-! ## Tokens -/

/-- Where the lexer stands; the characters read so far are in reverse. -/
inductive Mode
  /-- Between tokens. -/
  | outside
  /-- Inside a word without quotes. -/
  | word (cs : List Char)
  /-- Inside a text. -/
  | text (cs : List Char)
  /-- Behind a backslash in a text. -/
  | escape (cs : List Char)
  /-- Inside a `\u` escape: the first half of a pair, the digits still missing, the code so far. -/
  | code (cs : List Char) (high : Option Nat) (missing : Nat) (value : Nat)
  /-- Behind the first half of a pair, where the backslash of the second half has to follow. -/
  | half (cs : List Char) (high : Nat)
  /-- Behind that backslash. -/
  | halfEscape (cs : List Char) (high : Nat)

/-- The lexer: its mode and the tokens read so far, in reverse. -/
structure Lexer where
  mode : Mode := .outside
  tokens : List Token := []

/-- The character that a letter behind a backslash stands for. -/
def escaped? (c : Char) : Option Char :=
  if c = '"' ∨ c = '\\' ∨ c = '/' then some c
  else if c = 'b' then some '\x08'
  else if c = 'f' then some '\x0c'
  else if c = 'n' then some '\n'
  else if c = 'r' then some '\r'
  else if c = 't' then some '\t'
  else none

namespace Lexer

/-- Whether a character is a blank between tokens. -/
def isBlank (c : Char) : Bool := c = ' ' ∨ c = '\t' ∨ c = '\n' ∨ c = '\r'

/-- Whether a character opens, closes or separates. -/
def isMark (c : Char) : Bool :=
  c = '[' ∨ c = ']' ∨ c = '\x7b' ∨ c = '\x7d' ∨ c = ',' ∨ c = ':'

/-- One character between tokens. -/
def stepOutside (tokens : List Token) (c : Char) : Lexer :=
  if isBlank c then ⟨.outside, tokens⟩
  else if isMark c then ⟨.outside, .mark c :: tokens⟩
  else if c = '"' then ⟨.text [], tokens⟩
  else ⟨.word [c], tokens⟩

/--
The mode behind a complete code. Codes of the first halves of pairs need a second half, and second
halves by themselves are refused.
-/
def codeDone? (cs : List Char) (high : Option Nat) (value : Nat) : Option Mode :=
  match high with
  | some h =>
    if 0xDC00 ≤ value ∧ value < 0xE000 then
      some (.text (Char.ofNat (0x10000 + (h - 0xD800) * 0x400 + (value - 0xDC00)) :: cs))
    else none
  | none =>
    if 0xD800 ≤ value ∧ value < 0xDC00 then some (.half cs value)
    else if 0xDC00 ≤ value ∧ value < 0xE000 then none
    else some (.text (Char.ofNat value :: cs))

/-- One character. -/
def step (l : Lexer) (c : Char) : Option Lexer :=
  match l.mode with
  | .outside => some (stepOutside l.tokens c)
  | .word cs =>
    if isBlank c ∨ isMark c ∨ c = '"' then
      (wordValue? cs.reverse).map fun v => stepOutside (.value v :: l.tokens) c
    else some ⟨.word (c :: cs), l.tokens⟩
  | .text cs =>
    if c = '"' then some ⟨.outside, .text (String.ofList cs.reverse) :: l.tokens⟩
    else if c = '\\' then some ⟨.escape cs, l.tokens⟩
    else if c.toNat < 32 then none
    else some ⟨.text (c :: cs), l.tokens⟩
  | .escape cs =>
    if c = 'u' then some ⟨.code cs none 4 0, l.tokens⟩
    else (escaped? c).map fun e => ⟨.text (e :: cs), l.tokens⟩
  | .code cs high missing value =>
    (hexValue? c).bind fun d =>
      let value := 16 * value + d
      if missing ≤ 1 then (codeDone? cs high value).map fun m => ⟨m, l.tokens⟩
      else some ⟨.code cs high (missing - 1) value, l.tokens⟩
  | .half cs high => if c = '\\' then some ⟨.halfEscape cs high, l.tokens⟩ else none
  | .halfEscape cs high => if c = 'u' then some ⟨.code cs (some high) 4 0, l.tokens⟩ else none

/-- The tokens of a whole text, in order. -/
def tokens? (cs : List Char) : Option (List Token) :=
  (cs.foldlM step {}).bind fun l =>
    match l.mode with
    | .outside => some l.tokens.reverse
    | .word w => (wordValue? w.reverse).map fun v => (.value v :: l.tokens).reverse
    | _ => none

end Lexer

/-! ## Values -/

/-- A container that is still open. -/
inductive Frame
  /-- An array, with its items so far in reverse. -/
  | items (done : List Json)
  /-- An object, with its fields so far and the key whose value comes next. -/
  | fields (done : List (String × Json)) (key : String)

/-- What may come next. -/
inductive Expected
  | value
  /-- The first item, or the end of the array. -/
  | firstItem
  /-- The first key, or the end of the object `done`. -/
  | firstKey
  /-- A key of the object with these fields. -/
  | key (done : List (String × Json))
  /-- The colon behind a key. -/
  | colon (done : List (String × Json)) (key : String)
  /-- The separator behind a value or the end of its container. -/
  | next (v : Json)

/-- The builder: what comes next, and the open containers around it, innermost first. -/
structure Builder where
  expected : Expected := .value
  stack : List Frame := []

namespace Builder

/-- A container opens, if the limit allows one more. -/
def opened? (limit : Option Nat) (b : Builder) (c : Char) : Option Builder :=
  let fits := match limit with
    | some n => b.stack.length < n
    | none => true
  if !fits then none
  else if c = '[' then some ⟨.firstItem, .items [] :: b.stack⟩
  else if c = '\x7b' then some ⟨.firstKey, b.stack⟩
  else none

/-- One token where a value is expected. -/
def stepValue (limit : Option Nat) (b : Builder) : Token → Option Builder
  | .mark c => opened? limit b c
  | .text s => some { b with expected := .next (.str s) }
  | .value v => some { b with expected := .next v }

/-- One token. -/
def step (limit : Option Nat) (b : Builder) (t : Token) : Option Builder :=
  match b.expected, t with
  | .value, t => stepValue limit b t
  | .firstItem, .mark ']' =>
    match b.stack with
    | .items done :: rest => some ⟨.next (.arr done.reverse), rest⟩
    | _ => none
  | .firstItem, t => stepValue limit b t
  | .firstKey, .mark '\x7d' => some { b with expected := .next (.obj []) }
  | .firstKey, .text key => some { b with expected := .colon [] key }
  | .key done, .text key => some { b with expected := .colon done key }
  | .colon done key, .mark ':' => some ⟨.value, .fields done key :: b.stack⟩
  | .next v, .mark ',' =>
    match b.stack with
    | .items done :: rest => some ⟨.value, .items (v :: done) :: rest⟩
    | .fields done key :: rest => some ⟨.key (Entries.put key v done), rest⟩
    | [] => none
  | .next v, .mark ']' =>
    match b.stack with
    | .items done :: rest => some ⟨.next (.arr (v :: done).reverse), rest⟩
    | _ => none
  | .next v, .mark '\x7d' =>
    match b.stack with
    | .fields done key :: rest => some ⟨.next (.obj (Entries.put key v done)), rest⟩
    | _ => none
  | _, _ => none

/-- The value that the tokens build. -/
def value? (limit : Option Nat) (tokens : List Token) : Option Json :=
  (tokens.foldlM (step limit) {}).bind fun b =>
    match b.expected, b.stack with
    | .next v, [] => some v
    | _, _ => none

end Builder

/-- The value that a text writes, with no more than `limit` containers inside each other. -/
def read (limit : Option Nat) (s : String) : Option Json :=
  (Lexer.tokens? s.toList).bind (Builder.value? limit)

/-- The nesting that configuration files and row data may have. -/
def nestingLimit : Nat := 127

/-- The value of a configuration text. -/
def parse? (s : String) : Option Json := read (some nestingLimit) s

end Livery.Json
