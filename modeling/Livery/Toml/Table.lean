import Livery.Json.Basic

/-!
# Tables under construction

A TOML document sets the values of a tree of tables one after another, and how a table came to be
decides what may still be added to it: `Origin`. `update` changes the table at the end of a path and
makes the tables on the way that are missing; in an array of tables it is the last one that is
changed.

A table takes its place among its siblings when it is first mentioned, or when it gets a header
after it has been implied by the headers of its parts.
-/

namespace Livery.Toml

/-- How a table came to be. -/
inductive Origin
  /-- By a header of its own. -/
  | header
  /-- By the header of one of its parts. -/
  | implied
  /-- By a dotted key. -/
  | dotted
deriving DecidableEq

/-- What a key of a table holds. -/
inductive Item
  /-- A complete value, which is not changed any more. -/
  | value (v : Json)
  | table (origin : Origin) (fields : List (String × Item))
  /-- An array of tables, of which the last is still open. -/
  | tables (done : List (List (String × Item))) (last : List (String × Item))

/-- The fields of a table, in order. -/
abbrev Fields := Entries Item

instance : Inhabited Item := ⟨.value .null⟩

/-- Changes the table at the end of a path of keys, taken from a dotted key or from a header. -/
def update (dotted : Bool) (change : Origin → Fields → Option Fields) :
    List String → Origin → Fields → Option Fields
  | [], origin, fields => change origin fields
  | key :: path, _, fields =>
    match fields.lookup key with
    | none =>
      let origin := if dotted then Origin.dotted else .implied
      (update dotted change path origin []).map fun t => fields ++ [(key, .table origin t)]
    | some (.table origin t) =>
      if dotted ∧ origin = .header then none
      else (update dotted change path origin t).map fun t => fields.put key (.table origin t)
    | some (.tables done last) =>
      (update dotted change path .header last).map fun t => fields.put key (.tables done t)
    | some (.value _) => none

/-- Sets a value that a key with dots in front of it names; no key is set twice. -/
def assign (path : List String) (key : String) (v : Json) : Origin → Fields → Option Fields :=
  update true
    (fun origin fields =>
      if (origin = .dotted) = path.isEmpty ∨ (fields.lookup key).isSome then none
      else some (fields ++ [(key, .value v)]))
    path

/-- Opens the table with a header; no table has two. -/
def openTable (path : List String) (key : String) (root : Fields) : Option Fields :=
  update false
    (fun _ fields =>
      match fields.lookup key with
      | none => some (fields ++ [(key, .table .header [])])
      | some (.table .implied t) => some (fields.drop key ++ [(key, .table .header t)])
      | _ => none)
    path .header root

/-- Opens a new table at the end of an array of tables. -/
def openNext (path : List String) (key : String) (root : Fields) : Option Fields :=
  update false
    (fun _ fields =>
      match fields.lookup key with
      | none => some (fields ++ [(key, .tables [] [])])
      | some (.tables done last) => some (fields.put key (.tables (done ++ [last]) []))
      | _ => none)
    path .header root

mutual

/-- The value of an item. -/
def Item.toJson : Item → Json
  | .value v => v
  | .table _ fields => .obj (fieldsToJson fields)
  | .tables done last => .arr (tablesToJson done ++ [.obj (fieldsToJson last)])

/-- The values of the fields of a table. -/
def fieldsToJson : List (String × Item) → List (String × Json)
  | [] => []
  | (key, item) :: rest => (key, item.toJson) :: fieldsToJson rest

/-- The values of a list of tables. -/
def tablesToJson : List (List (String × Item)) → List Json
  | [] => []
  | t :: rest => .obj (fieldsToJson t) :: tablesToJson rest

end

end Livery.Toml
