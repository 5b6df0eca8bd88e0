import Livery.Proofs.ReadValues
import Livery.Theme.Hook

/-!
# Tables of rows

The table that `Hook.rowTable` makes of the rows in a modifier has a header if the first row is an
object with keys, and then its keys in their order. Every object has a cell for each key of the
header, with what the object holds under that key, so cells and header stay aligned whatever keys
the other objects have, and in whatever order (`Cells`). An array has its items as cells, and all
other rows are skipped. What a cell shows of a value is `Shows`.

`Tabulates` says this of a table as a whole, and it determines header and body (`Tabulates.unique`).
A text is read as rows only if it is an array, and its objects repeat no key (`wellFormed_of_read`),
so what an object holds under a key is one value.
-/

namespace Livery

namespace Hook

/-! ## Rows and cells -/

/-- Whether a row has a row in the table. -/
def isRow : Json → Bool
  | .obj _ => true
  | .arr _ => true
  | _ => false

/-- What a cell shows of a value : nothing of `null`, a text as it is, a number as in running text,
and the JSON text of anything else. -/
inductive Shows : Json → String → Prop
  | null : Shows .null ""
  | text (s : String) : Shows (.str s) s
  | number (n : Json.Number) : Shows (.num n) (plainNumber n.toDouble)
  | truth (b : Bool) : Shows (.bool b) (if b then "true" else "false")
  | array (items : List Json) : Shows (.arr items) (Json.arr items).write
  | object (fields : Entries Json) : Shows (.obj fields) (Json.obj fields).write

theorem shows_iff {v : Json} {text : String} : Shows v text ↔ cellText v = text := by
  constructor
  · intro h
    cases h with
    | truth b => cases b <;> rfl
    | _ => rfl
  · rintro rfl
    cases v with
    | bool b => cases b <;> exact .truth _
    | null => exact .null
    | num n => exact .number n
    | str s => exact .text s
    | arr items => exact .array items
    | obj fields => exact .object fields

/-- The texts in the cells of a row under a header. -/
inductive Cells (header : List String) : Json → List String → Prop
  /-- An object has a cell for each key of the header, which shows what it holds under the key, or
  is empty if it does not have the key. -/
  | object {fields : Entries Json} {cells : List String} (length : cells.length = header.length)
      (held : ∀ (i : ℕ) (key : String) (v : Json), header[i]? = some key → (key, v) ∈ fields →
        ∃ text, cells[i]? = some text ∧ Shows v text)
      (missing : ∀ (i : ℕ) (key : String), header[i]? = some key → key ∉ Entries.keys fields →
        cells[i]? = some "") :
      Cells header (.obj fields) cells
  /-- An array has a cell for each of its items. -/
  | array {items : List Json} {cells : List String} (shown : List.Forall₂ Shows items cells) :
      Cells header (.arr items) cells

theorem forall₂_shows_iff {items : List Json} {cells : List String} :
    List.Forall₂ Shows items cells ↔ items.map cellText = cells := by
  rw [← List.forall₂_eq_eq_eq, List.forall₂_map_left_iff]
  exact ⟨fun h => h.imp fun _ _ => shows_iff.mp, fun h => h.imp fun _ _ => shows_iff.mpr⟩

theorem cells_object {fields : Entries Json} (h : (Entries.keys fields).Nodup)
    (header : List String) :
    Cells header (.obj fields)
      (header.map fun key => ((fields.lookup key).map cellText).getD "") := by
  refine .object (List.length_map _) (fun i key v hi hv => ?_) (fun i key hi hkey => ?_)
  · refine ⟨cellText v, ?_, shows_iff.mpr rfl⟩
    rw [List.getElem?_map, hi, Option.map_some, (Entries.lookup_eq_some_iff_mem h).mpr hv]
    rfl
  · have hnone : fields.lookup key = none := Entries.lookup_eq_none_iff.mpr hkey
    rw [List.getElem?_map, hi, Option.map_some, hnone]
    rfl

/-- A row has no other cells than those that are computed for it. -/
theorem Cells.eq_some {header : List String} {v : Json} {cells : List String}
    (h : Cells header v cells) : cells? header v = some cells := by
  cases h with
  | @object fields _ length held missing =>
    rw [cells?, Option.some.injEq]
    refine List.ext_getElem? fun i => ?_
    rw [List.getElem?_map]
    cases hi : header[i]? with
    | none =>
      have hlen : cells.length ≤ i := length ▸ List.getElem?_eq_none_iff.mp hi
      rw [Option.map_none, List.getElem?_eq_none hlen]
    | some key =>
      rw [Option.map_some]
      cases hv : fields.lookup key with
      | none => exact (missing i key hi (Entries.lookup_eq_none_iff.mp hv)).symm
      | some v =>
        obtain ⟨text, htext, hshows⟩ := held i key v hi (Entries.mem_of_lookup hv)
        rw [Option.map_some, Option.getD_some, shows_iff.mp hshows, htext]
  | array shown => rw [cells?, forall₂_shows_iff.mp shown]

/-- The rows that have cells are the objects and arrays. -/
theorem forall₂_cells (header : List String) : ∀ {rows : List Json}, (∀ v ∈ rows, v.WellFormed) →
    List.Forall₂ (Cells header) (rows.filter isRow) (rows.filterMap (cells? header))
  | [], _ => .nil
  | v :: rows, h => by
    have ih := forall₂_cells header fun w hw => h w (List.mem_cons_of_mem v hw)
    cases v with
    | obj fields =>
      have hfields := h _ List.mem_cons_self
      rw [Json.WellFormed] at hfields
      exact .cons (cells_object hfields.1 header) ih
    | arr items => exact .cons (.array (forall₂_shows_iff.mpr rfl)) ih
    | _ => exact ih

theorem filterMap_cells? {header : List String} {rows : List Json} {body : List (List String)}
    (h : List.Forall₂ (Cells header) (rows.filter isRow) body) :
    body = rows.filterMap (cells? header) := by
  induction rows generalizing body with
  | nil =>
    cases h
    rfl
  | cons v rows ih =>
    cases v with
    | obj fields =>
      rcases h with _ | ⟨hrow, h⟩
      rw [List.filterMap_cons, hrow.eq_some, ← ih h]
    | arr items =>
      rcases h with _ | ⟨hrow, h⟩
      rw [List.filterMap_cons, hrow.eq_some, ← ih h]
    | _ => exact ih h

/-- There is a header if the first row is an object with keys. -/
theorem headerOf_ne_nil_iff (rows : List Json) :
    headerOf rows ≠ [] ↔ ∃ fields rest, rows = .obj fields :: rest ∧ fields ≠ [] := by
  constructor
  · intro h
    cases rows with
    | nil => exact absurd rfl h
    | cons v rest =>
      cases v with
      | obj fields =>
        refine ⟨fields, rest, rfl, ?_⟩
        rintro rfl
        exact h rfl
      | _ => exact absurd rfl h
  · rintro ⟨fields, rest, rfl, hne⟩ hnil
    exact hne (List.map_eq_nil_iff.mp hnil)

/-! ## Tables -/

/-- A table of rows with a header and the texts of the body. -/
structure Tabulates (rows : List Json) (header : List String) (body : List (List String))
    (table : Element) : Prop where
  name : table.name = "table"
  label : table.attrs.entries = [("data-name", "table")]
  /-- There is a header exactly if the first row is an object with keys. -/
  header_iff : header ≠ [] ↔ ∃ fields rest, rows = .obj fields :: rest ∧ fields ≠ []
  /-- The header has the keys of the first row. -/
  header_keys : ∀ fields rest, rows = .obj fields :: rest → header = Entries.keys fields
  /-- The body has the cells of each object and array, in order. -/
  cells : List.Forall₂ (Cells header) (rows.filter isRow) body
  /-- A header is written in a head of its own, in front of the body. -/
  children : table.children =
    (if header = [] then []
      else [.element ⟨"thead", ∅, [.element ⟨"tr", ∅,
        header.map fun text => .element ⟨"th", ∅, [.text text]⟩⟩]⟩]) ++
    [.element ⟨"tbody", ∅, body.map fun texts => .element ⟨"tr", ∅,
      texts.map fun text => .element ⟨"td", ∅, [.text text]⟩⟩⟩]

theorem tabulates_table {rows : List Json} (h : ∀ v ∈ rows, v.WellFormed) :
    Tabulates rows (headerOf rows) (rows.filterMap (cells? (headerOf rows))) (table rows) where
  name := rfl
  label := rfl
  header_iff := headerOf_ne_nil_iff rows
  header_keys := by
    rintro fields rest rfl
    rfl
  cells := forall₂_cells _ h
  children := by
    simp only [table, List.isEmpty_iff]
    rfl

/-- The rows determine header and body. -/
theorem Tabulates.unique {rows : List Json} {header : List String} {body : List (List String)}
    {table : Element} (h : Tabulates rows header body table) :
    header = headerOf rows ∧ body = rows.filterMap (cells? (headerOf rows)) := by
  have hheader : header = headerOf rows := by
    by_cases hrow : ∃ fields rest, rows = .obj fields :: rest
    · obtain ⟨fields, rest, rfl⟩ := hrow
      exact h.header_keys fields rest rfl
    · have hnil : header = [] := by
        by_contra hne
        obtain ⟨fields, rest, hrows, -⟩ := h.header_iff.mp hne
        exact hrow ⟨fields, rest, hrows⟩
      have hnil' : headerOf rows = [] := by
        by_contra hne
        obtain ⟨fields, rest, hrows, -⟩ := (headerOf_ne_nil_iff rows).mp hne
        exact hrow ⟨fields, rest, hrows⟩
      rw [hnil, hnil']
  have hcells := h.cells
  rw [hheader] at hcells
  exact ⟨hheader, filterMap_cells? hcells⟩

/-- A text holds the items of an array as rows, and none if it is missing or is no array. -/
inductive HoldsRows : Option String → List Json → Prop
  | array {text : String} {rows : List Json} (h : Json.parse? text = some (.arr rows)) :
      HoldsRows (some text) rows
  | other {text : String} (h : ∀ rows, Json.parse? text ≠ some (.arr rows)) :
      HoldsRows (some text) []
  | missing : HoldsRows none []

theorem holdsRows_rowsOf (text : Option String) : HoldsRows text (rowsOf (text.getD "")) := by
  cases text with
  | none =>
    have hempty : rowsOf "" = [] := by cbv
    rw [Option.getD_none, hempty]
    exact .missing
  | some text =>
    rw [Option.getD_some, rowsOf]
    split
    · rename_i rows h
      exact .array h
    · rename_i h
      exact .other h

theorem HoldsRows.unique {text : String} {rows : List Json} (h : HoldsRows (some text) rows) :
    rows = rowsOf text := by
  rw [rowsOf]
  cases h with
  | array h => rw [h]
  | other h =>
    split
    · rename_i rows hrows
      exact absurd hrows (h rows)
    · rfl

/-- The rows in a text repeat no key. -/
theorem HoldsRows.wellFormed {text : Option String} {rows : List Json} (h : HoldsRows text rows) :
    ∀ v ∈ rows, v.WellFormed := by
  cases h with
  | array h =>
    have hrows := Json.wellFormed_of_read h
    rw [Json.WellFormed] at hrows
    exact fun v hv => Json.WellFormed.of_mem_items hrows hv
  | other h => exact fun v hv => absurd hv List.not_mem_nil
  | missing => exact fun v hv => absurd hv List.not_mem_nil

/--
A component whose rows are tabulated keeps its name and its attributes, and its only child is the
table of the rows that the modifier holds : a header with the keys of the first row if that is an
object with keys, and below it a row for each object and each array, where every object has its
cells under the keys of the header.
-/
theorem rowTable_aligned (modifier : String) (e : Element) (context : RuneContext) :
    ∃ rows header body table, HoldsRows (context.modifiers.get? modifier) rows ∧
      Tabulates rows header body table ∧
      rowTable modifier e context = ⟨e.name, e.attrs, [.element table]⟩ :=
  have hrows := holdsRows_rowsOf (context.modifiers.get? modifier)
  ⟨_, _, _, _, hrows, tabulates_table hrows.wellFormed, rfl⟩

/-- Rows of all kinds : an object, one with another order of its keys, an array and a number. -/
def peopleText : String :=
  "[\x7b\"name\":\"Ann\",\"age\":30\x7d,\x7b\"age\":0.9999999999999999,\"x\":1\x7d," ++
    "[null,true,[1]],5]"

theorem rowTable_aligned_people :
    ∃ rows header body table,
      rowTable "rows" ⟨"section", ∅, []⟩ ⟨.ofList [("rows", peopleText)], none⟩ =
        ⟨"section", ∅, [.element table]⟩ ∧
      Tabulates rows header body table ∧ header = ["name", "age"] ∧
      body = [["Ann", "30"], ["", "1"], ["", "true", "[1]"]] := by
  obtain ⟨rows, header, body, table, hrows, htable, hresult⟩ :=
    rowTable_aligned "rows" ⟨"section", ∅, []⟩ ⟨.ofList [("rows", peopleText)], none⟩
  have heq : rows = rowsOf peopleText := hrows.unique
  obtain ⟨hheader, hbody⟩ := htable.unique
  refine ⟨rows, header, body, table, hresult, htable, ?_, ?_⟩
  · rw [hheader, heq]
    decide +kernel
  · rw [hbody, heq]
    decide +kernel

end Hook

end Livery
