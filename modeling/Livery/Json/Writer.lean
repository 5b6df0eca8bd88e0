import Livery.Json.Basic

/-!
# JSON texts

`Json.write` is the compact text of a value: fields and items in order, no blanks, and texts with
quotes, backslashes and control characters escaped and all else as it is.
-/

namespace Livery.Json

/-- A lower-case hexadecimal digit. -/
def hexDigit (n : Nat) : Char := (Nat.digitChar (n % 16))

/-- A character between double quotes. -/
def writeChar (c : Char) : List Char :=
  if c = '"' then ['\\', '"']
  else if c = '\\' then ['\\', '\\']
  else if c = '\n' then ['\\', 'n']
  else if c = '\r' then ['\\', 'r']
  else if c = '\t' then ['\\', 't']
  else if c = '\x08' then ['\\', 'b']
  else if c = '\x0c' then ['\\', 'f']
  else if c.toNat < 32 then ['\\', 'u', '0', '0', hexDigit (c.toNat / 16), hexDigit c.toNat]
  else [c]

/-- A text between double quotes. -/
def writeText (s : String) : String :=
  String.ofList ('"' :: s.toList.flatMap writeChar ++ ['"'])

/-- The text of an integer. -/
def writeInt (n : Int) : String := (if n < 0 then "-" else "") ++ Nat.repr n.natAbs

/-- The text of a number; a number that is infinite or undefined has none and becomes `null`. -/
def Number.write : Number → String
  | .int n => writeInt n
  | .float x => if x.isFinite then Notation.json.render x else "null"

mutual

/-- The compact text of a value. -/
def write : Json → String
  | .null => "null"
  | .bool b => if b then "true" else "false"
  | .num n => n.write
  | .str s => writeText s
  | .arr items => "[" ++ writeItems items ++ "]"
  | .obj fields => "\x7b" ++ writeFields fields ++ "\x7d"

/-- The items with commas between them. -/
def writeItems : List Json → String
  | [] => ""
  | v :: rest => write v ++ (if rest.isEmpty then "" else ",") ++ writeItems rest

/-- The fields with commas between them. -/
def writeFields : List (String × Json) → String
  | [] => ""
  | (key, v) :: rest =>
    writeText key ++ ":" ++ write v ++ (if rest.isEmpty then "" else ",") ++ writeFields rest

end

end Livery.Json
