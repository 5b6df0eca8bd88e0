import Livery.Json.Basic

/-!
# Reading fields

A `Decoder α` reads a value of type `α` from a JSON value, or refuses it. The decoders of structures
are built from those of their fields: a field may be required (`required`), have a default that
stands for an absent field only (`defaulted`), or be optional, where `null` counts as absent
(`optional`). Fields that a structure does not know are ignored.

A structure is an object with its fields, or an array with the values of its fields in the order of
their declaration (`recordFields?`). An enumeration is written by the name of a case. The object
with that name as its only field and the value `null` is the same case (`caseName?`).
-/

namespace Livery.Json

/-- A reader of values that may refuse. -/
abbrev Decoder (α : Type) := Json → Option α

variable {α : Type}

/-! ## Plain values -/

/-- A text. -/
def decodeText : Decoder String := asText?

/-- A truth value. -/
def decodeBool : Decoder Bool
  | .bool b => some b
  | _ => none

/-- Any value. -/
def decodeAny : Decoder Json := some

/-- A natural number below a bound, written as an integer. -/
def decodeBelow (bound : Nat) : Decoder Nat
  | .num n => n.below? bound
  | _ => none

/-- A number in double precision; integers are converted. -/
def decodeDouble : Decoder Double
  | .num n => some n.toDouble
  | _ => none

/-- The name of a case of an enumeration. -/
def caseName? : Decoder String
  | .str s => some s
  | .obj [(name, .null)] => some name
  | _ => none

/-- A case of an enumeration, by its name. -/
def decodeCase (cases : List (String × α)) : Decoder α := fun v =>
  (caseName? v).bind fun name => cases.lookup name

/-! ## Containers -/

/-- An array whose items all decode. -/
def decodeList (d : Decoder α) : Decoder (List α)
  | .arr items => items.mapM d
  | _ => none

/-- An object whose values all decode, as an ordered map. -/
def decodeDict (d : Decoder α) : Decoder (Dict α)
  | .obj fields => (fields.mapM fun p => (d p.2).map fun v => (p.1, v)).map Dict.ofList
  | _ => none

/-! ## Fields -/

/-- A field that has to be there. -/
def required (d : Decoder α) (fields : Entries Json) (key : String) : Option α :=
  (fields.lookup key).bind d

/-- A field whose absence stands for a value. -/
def defaulted (d : Decoder α) (value : α) (fields : Entries Json) (key : String) : Option α :=
  match fields.lookup key with
  | none => some value
  | some v => d v

/-- A field that may be absent or `null`. -/
def optional (d : Decoder α) (fields : Entries Json) (key : String) : Option (Option α) :=
  match fields.lookup key with
  | none => some none
  | some .null => some none
  | some v => (d v).map some

/--
The fields of a structure that declares these names. An array may end early, which leaves the other
fields absent, and it is refused if it has more items than there are names.
-/
def recordFields? (names : List String) : Json → Option (Entries Json)
  | .obj fields => some fields
  | .arr items => if items.length ≤ names.length then some (names.zip items) else none
  | _ => none

/-- A structure that declares these names, read from its fields. -/
def decodeRecord (names : List String) (read : Entries Json → Option α) : Decoder α := fun v =>
  (recordFields? names v).bind read

/-! ## Writing -/

/-- A text that is left out if it is absent. -/
def ofText? (s : Option String) : Option Json := s.map .str

/-- A map from texts to texts. -/
def ofTexts (d : Dict String) : Json := .obj (d.mapValues fun _ s => Json.str s).entries

/-- The texts as an array. -/
def ofTextList (l : List String) : Json := .arr (l.map .str)

/-- A natural number. -/
def ofNat (n : Nat) : Json := .num (.int n)

/-- The value of `d`, left out if the map is empty. -/
def unlessEmpty {α : Type} (write : α → Json) (d : Dict α) : Option Json :=
  if d.isEmpty then none else some (.obj (d.mapValues fun _ v => write v).entries)

/-- The items of `l`, left out if there is none. -/
def unlessNil {α : Type} (write : α → Json) (l : List α) : Option Json :=
  if l.isEmpty then none else some (.arr (l.map write))

/-- A flag that is left out unless it is set. -/
def ifSet (b : Bool) : Option Json := if b then some (.bool true) else none

end Livery.Json
