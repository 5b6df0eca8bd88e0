import Livery.Text.Breaks
import Livery.Yaml.Lexer
import Livery.Yaml.Scalar

/-!
# Reading YAML

`Yaml.read` reads the value that a text with a single document is. A text without a document is
`null`. The keys of mappings are texts in whatever form they are written, and a key that is repeated
keeps its first place and takes its last value. What is left out between the tokens of a collection
is `null`.
-/

namespace Livery.Yaml

/-! ## Characters -/

/-- Whether a character may occur in a document. -/
def isAllowed (c : Char) : Bool :=
  let n := c.toNat
  n = 0x09 ∨ n = 0x0A ∨ n = 0x0D ∨ (0x20 ≤ n ∧ n ≤ 0x7E) ∨ n = 0x85 ∨ (0xA0 ≤ n ∧ n ≤ 0xD7FF) ∨
    (0xE000 ≤ n ∧ n ≤ 0xFFFD) ∨ 0x10000 ≤ n

/-- The text with the line breaks that count as line feeds written as such. -/
def lines (cs : List Char) : List Char :=
  (Text.joinedBreaks cs).map fun c => if c = '\r' ∨ c = '\u0085' then '\n' else c

/-! ## Values -/

/-- A reader of something at the start of a list of tokens, which returns the rest. -/
abbrev TokenReader (α : Type) := List Token → Option (α × List Token)

/-- Whether the place for a node is left empty in front of these tokens. -/
def isOmitted (ends : List Token) : List Token → Bool
  | [] => false
  | t :: _ => ends.contains t

/-- The text of a key. -/
def keyText? : TokenReader String
  | .plain s :: rest => some (s, rest)
  | .quoted s :: rest => some (s, rest)
  | _ => none

/-- The text of a key in front of its value, empty if it is left out. -/
def keyOrEmpty? (ends : List Token) (ts : List Token) : Option (String × List Token) :=
  if isOmitted ends ts then some ("", ts) else keyText? ts

mutual

/-- A node; in blocks (`block`) it may be a block, and behind a key (`item`) a list of items. -/
def node? : (fuel : Nat) → (block item : Bool) → TokenReader Json
  | 0, _, _, _ => none
  | fuel + 1, block, item, ts =>
    match ts with
    | .plain s :: rest => (plainValue? s).map fun v => (v, rest)
    | .quoted s :: rest => some (.str s, rest)
    | .flowSequence :: rest =>
      (flowItems? fuel true rest).map fun (l, rest) => (.arr l, rest)
    | .flowMapping :: rest =>
      (flowPairs? fuel true [] rest).map fun (fs, rest) => (.obj fs, rest)
    | .blockSequence :: rest =>
      if block then (blockItems? fuel rest).map fun (l, rest) => (.arr l, rest) else none
    | .blockMapping :: rest =>
      if block then (blockPairs? fuel [] rest).map fun (fs, rest) => (.obj fs, rest) else none
    | .item :: _ =>
      if item then (plainItems? fuel ts).map fun (l, rest) => (.arr l, rest) else none
    | _ => none

/-- A node, or `null` if its place is left empty. -/
def nodeOr? : (fuel : Nat) → (block item : Bool) → (ends : List Token) → TokenReader Json
  | 0, _, _, _, _ => none
  | fuel + 1, block, item, ends, ts =>
    if isOmitted ends ts then some (.null, ts) else node? fuel block item ts

/-- The items of a block, and its end. -/
def blockItems? : (fuel : Nat) → TokenReader (List Json)
  | 0, _ => none
  | fuel + 1, .item :: rest =>
    (nodeOr? fuel true false [.item, .blockEnd] rest).bind fun (v, rest) =>
      (blockItems? fuel rest).map fun (l, rest) => (v :: l, rest)
  | _, .blockEnd :: rest => some ([], rest)
  | _, _ => none

/-- Items that are not indented more than the key in front of them. -/
def plainItems? : (fuel : Nat) → TokenReader (List Json)
  | 0, _ => none
  | fuel + 1, .item :: rest =>
    (nodeOr? fuel true false [.item, .key, .value, .blockEnd] rest).bind fun (v, rest) =>
      (plainItems? fuel rest).map fun (l, rest) => (v :: l, rest)
  | _, ts => some ([], ts)

/-- The value behind a key, if there is one. -/
def valueOr? : (fuel : Nat) → (block : Bool) → (ends : List Token) → TokenReader Json
  | 0, _, _, _ => none
  | fuel + 1, block, ends, .value :: rest => nodeOr? fuel block block ends rest
  | _, _, _, ts => some (.null, ts)

/-- The pairs of a block behind those that `fields` holds, and its end. -/
def blockPairs? : (fuel : Nat) → Entries Json → TokenReader (Entries Json)
  | 0, _, _ => none
  | fuel + 1, fields, .key :: rest =>
    (keyOrEmpty? [.key, .value, .blockEnd] rest).bind fun (key, rest) =>
      (valueOr? fuel true [.key, .value, .blockEnd] rest).bind fun (v, rest) =>
        blockPairs? fuel (fields.put key v) rest
  | _, fields, .blockEnd :: rest => some (fields, rest)
  | _, _, _ => none

/-- The items between brackets, and the closing one; all but the first follow a comma. -/
def flowItems? : (fuel : Nat) → (first : Bool) → TokenReader (List Json)
  | 0, _, _ => none
  | _ + 1, _, .flowSequenceEnd :: rest => some ([], rest)
  | fuel + 1, first, ts =>
    match first, ts with
    | false, .comma :: .flowSequenceEnd :: rest => some ([], rest)
    | false, .comma :: rest => flowItem? fuel rest
    | true, ts => flowItem? fuel ts
    | _, _ => none

/-- An item between brackets and those behind it; a single pair is a mapping of its own. -/
def flowItem? : (fuel : Nat) → TokenReader (List Json)
  | 0, _ => none
  | fuel + 1, .key :: rest =>
    let isEmpty := isOmitted [.value, .comma, .flowSequenceEnd] rest
    (if isEmpty then some ("", rest.drop 1) else keyText? rest).bind fun (key, rest) =>
      (valueOr? fuel false [.comma, .flowSequenceEnd] rest).bind fun (v, rest) =>
        (flowItems? fuel false rest).map fun (l, rest) => (.obj [(key, v)] :: l, rest)
  | fuel + 1, ts =>
    (node? fuel false false ts).bind fun (v, rest) =>
      (flowItems? fuel false rest).map fun (l, rest) => (v :: l, rest)

/-- The pairs between braces behind those that `fields` holds, and the closing brace. -/
def flowPairs? : (fuel : Nat) → (first : Bool) → Entries Json → TokenReader (Entries Json)
  | 0, _, _, _ => none
  | _ + 1, _, fields, .flowMappingEnd :: rest => some (fields, rest)
  | fuel + 1, first, fields, ts =>
    match first, ts with
    | false, .comma :: .flowMappingEnd :: rest => some (fields, rest)
    | false, .comma :: rest => flowPair? fuel fields rest
    | true, ts => flowPair? fuel fields ts
    | _, _ => none

/-- A pair between braces and those behind it; a key by itself has the value `null`. -/
def flowPair? : (fuel : Nat) → Entries Json → TokenReader (Entries Json)
  | 0, _, _ => none
  | fuel + 1, fields, .key :: rest =>
    (keyOrEmpty? [.value, .comma, .flowMappingEnd] rest).bind fun (key, rest) =>
      (valueOr? fuel false [.comma, .flowMappingEnd] rest).bind fun (v, rest) =>
        flowPairs? fuel false (fields.put key v) rest
  | fuel + 1, fields, ts =>
    (keyText? ts).bind fun (key, rest) => flowPairs? fuel false (fields.put key .null) rest

end

/-! ## Documents -/

mutual

/-- The number of containers inside each other. -/
def nesting : Json → Nat
  | .arr items => nestingItems items + 1
  | .obj fields => nestingFields fields + 1
  | _ => 0

/-- The greatest nesting of a list of values. -/
def nestingItems : List Json → Nat
  | [] => 0
  | v :: rest => max (nesting v) (nestingItems rest)

/-- The greatest nesting of the values of fields. -/
def nestingFields : List (String × Json) → Nat
  | [] => 0
  | (_, v) :: rest => max (nesting v) (nestingFields rest)

end

/-- The nesting that a document may have. -/
def nestingLimit : Nat := 128

/-- The content of a document, and what stands behind it. -/
def content? (fuel : Nat) : TokenReader Json
  | [] => some (.null, [])
  | .documentStart :: rest =>
    match rest with
    | [] => some (.null, [])
    | .documentStart :: _ => some (.null, rest)
    | .documentEnd :: _ => some (.null, rest)
    | _ => node? fuel true false rest
  | ts => node? fuel true false ts

/-- The value of the only document of a list of tokens. -/
def document? (ts : List Token) : Option Json :=
  (content? (4 * ts.length + 4) ts).bind fun (v, rest) =>
    if (rest.dropWhile (· = .documentEnd)).isEmpty ∧ nesting v ≤ nestingLimit then some v else none

/-- The value that a text is. -/
def read (s : String) : Option Json :=
  let cs := Text.withoutMark s.toList
  if cs.all isAllowed then (Lexer.tokens? (lines cs)).bind document? else none

end Livery.Yaml
