import Livery.Check.Layout
import Livery.Check.Theme
import Livery.Proofs.Decoding
import Livery.Proofs.Shapes
import Livery.Theme.Coding

/-!
# Children of entries, fragments and slots

Synthesized elements, fragments and slots have their like among their children, so their decoders
and their checks are recursions that look for the field with the children, and then go from item to
item. Each of these recursions is the combinator that it spells out : a decoder reads a list with a
default (`Json.children_decoded`), a check looks at each item of an array that is given
(`Json.children_checked`), and a shape asks for an array of items with a shape
(`Json.children_shaped`).

A decoder looks for the children in an array of fields too, which is the look-up among the fields
under their names (`Json.children_inRow`). So a child that is no text is decoded as a structure
(`StructureEntry.childOfJson?_eq`, `Chrome.childOfJson?_eq`).
-/

namespace Livery

namespace Json

/-- A recursion that looks for the children among the fields of an object is a look-up. -/
theorem children_eq_elim {β : Type} (f : Entries Json → β) (g : Json → β) {z : β} (hnil : f [] = z)
    (hcons : ∀ key v rest, f ((key, v) :: rest) = if key = "children" then g v else f rest)
    (fields : Entries Json) : f fields = (fields.lookup "children").elim z g := by
  induction fields with
  | nil => exact hnil
  | cons p rest ih =>
    rw [hcons, ih, List.lookup_cons]
    by_cases h : p.1 = "children"
    · simp [h]
    · rw [if_neg h, beq_false_of_ne (Ne.symm h)]

/-- A recursion that looks for the children in a row of items looks for them among the fields that
the row gives. -/
theorem children_inRow {β : Type} {f : List String → List Json → β} {f' : Entries Json → β}
    {g : Json → β} {z : β} (hnil : ∀ items, f [] items = z)
    (hend : ∀ name names, f (name :: names) [] = z)
    (hrow : ∀ name names v rest, f (name :: names) (v :: rest) =
      if name = "children" then g v else f names rest)
    (hnil' : f' [] = z)
    (hcons' : ∀ key v rest, f' ((key, v) :: rest) = if key = "children" then g v else f' rest) :
    ∀ names items, f names items = f' (names.zip items)
  | [], items => by rw [hnil, List.zip_nil_left, hnil']
  | name :: names, [] => by rw [hend, List.zip_nil_right, hnil']
  | name :: names, v :: rest => by
    rw [hrow, List.zip_cons_cons, hcons', children_inRow hnil hend hrow hnil' hcons' names rest]

/-- A structure in a row whose children are decoded first. -/
theorem map_decodeRecord_arr {α β γ : Type} {names : List String} {items : List Json}
    {children : Entries Json → Option β} {read : Entries Json → β → Option α} {f : α → γ} :
    ((children (names.zip items)).bind fun cs =>
      (decodeRecord names (fun fields => read fields cs) (.arr items)).map f) =
    (decodeRecord names (fun fields => (children fields).bind (read fields)) (.arr items)).map
      f := by
  by_cases h : items.length ≤ names.length
  · simp only [decodeRecord, recordFields?, if_pos h, Option.bind_some, Option.map_bind]
    rfl
  · simp only [decodeRecord, recordFields?, if_neg h, Option.bind_none, Option.map_none]
    exact Option.bind_fun_none _

section

variable {fields : Entries Json}

theorem children_shaped {f : Entries Json → Bool} {g s : Shape} (hnil : f [] = true)
    (hcons : ∀ key v rest, f ((key, v) :: rest) = if key = "children" then g v else f rest)
    (hg : g = Shape.items s) : f fields = Shape.given fields "children" (Shape.items s) := by
  rw [children_eq_elim f g hnil hcons, hg, Shape.given]
  cases fields.lookup "children" <;> rfl

/-- A recursion that decodes item by item refuses a list if it refuses one of the items. -/
theorem items_decoded {α : Type} {f : List Json → Option (List α)} {d : Decoder α}
    (hnil : f [] = some [])
    (hcons : ∀ v rest, f (v :: rest) = (d v).bind fun a => (f rest).map fun l => a :: l) :
    ∀ l, f l = l.mapM d
  | [] => hnil
  | v :: rest => by
    rw [hcons, items_decoded hnil hcons rest, List.mapM_cons]
    cases d v <;> cases rest.mapM d <;> rfl

theorem children_decoded {α : Type} {f : Entries Json → Option (List α)} {g : Decoder (List α)}
    {d : Decoder α} (hnil : f [] = some [])
    (hcons : ∀ key v rest, f ((key, v) :: rest) = if key = "children" then g v else f rest)
    (hg : g = decodeList d) : f fields = defaulted (decodeList d) [] fields "children" := by
  rw [children_eq_elim f g hnil hcons, hg, defaulted]
  cases fields.lookup "children" <;> rfl

theorem children_checked {f : Entries Json → List Finding} {g check : Json → List Finding}
    (hnil : f [] = [])
    (hcons : ∀ key v rest, f ((key, v) :: rest) =
      if key = "children" then Check.inside (.field key) (g v) else f rest)
    (hg : g = check) : f fields = Check.given fields "children" check := by
  have hcons' : ∀ key v rest, f ((key, v) :: rest) =
      if key = "children" then Check.inside (.field "children") (g v) else f rest := by
    intro key v rest
    rw [hcons]
    split
    · rename_i h
      rw [h]
    · rfl
  rw [children_eq_elim f (fun v => Check.inside (.field "children") (g v)) hnil hcons', hg,
    Check.given]
  cases fields.lookup "children" <;> rfl

end

end Json

/-- A check that goes from item to item and counts them. -/
theorem Check.eachItem_eq {f : Nat → List Json → List Finding} {check : Json → List Finding}
    (hnil : ∀ i, f i [] = [])
    (hcons : ∀ i v rest, f i (v :: rest) = inside (.index i) (check v) ++ f (i + 1) rest)
    (l : List Json) : f 0 l = eachItem check l := by
  have hfrom : ∀ i, f i l = (l.zipIdx i).flatMap fun p => inside (.index p.2) (check p.1) := by
    induction l with
    | nil => exact hnil
    | cons v rest ih =>
      intro i
      rw [hcons, ih, List.zipIdx_cons, List.flatMap_cons]
  exact hfrom 0

/-! ## Synthesized elements -/

namespace StructureEntry

theorem childrenOfFields?_eq (fields : Entries Json) :
    childrenOfFields? fields =
      Json.defaulted (Json.decodeList childOfJson?) [] fields "children" := by
  refine Json.children_decoded (g := childrenOfJson?) rfl ?_ ?_
  · exact fun _ _ _ => by rw [childrenOfFields?]
  · funext v
    cases v with
    | arr l =>
      exact Json.items_decoded (f := childrenOfItems?) rfl
        (fun _ _ => by rw [childrenOfItems?]) l
    | _ => rfl

theorem childrenInRow?_eq (names : List String) (items : List Json) :
    childrenInRow? names items = childrenOfFields? (names.zip items) :=
  Json.children_inRow (g := childrenOfJson?) (fun _ => by rw [childrenInRow?])
    (fun _ _ => by rw [childrenInRow?]) (fun _ _ _ _ => by rw [childrenInRow?])
    (by rw [childrenOfFields?]) (fun _ _ _ => by rw [childrenOfFields?]) names items

/-- A child that is no text is an entry. -/
theorem childOfJson?_eq {v : Json} (h : v.isText = false) :
    childOfJson? v = (ofJson? v).map .entry := by
  cases v with
  | str s => cases h
  | obj fields =>
    rw [childOfJson?, ofJson?, Json.decodeRecord_obj, Option.map_bind]
    rfl
  | arr items =>
    rw [childOfJson?, childrenInRow?_eq, ofJson?]
    exact Json.map_decodeRecord_arr
  | _ => rfl

end StructureEntry

namespace Check

/-- A child of a synthesized element. -/
def structureChild (modifiers groups : List String) (v : Json) : List Finding :=
  if v.isText then [] else structureEntry modifiers groups v

theorem structureChildrenField_eq (modifiers groups : List String) (fields : Entries Json) :
    structureChildrenField modifiers groups fields =
      given fields "children" (array .array (eachItem (structureChild modifiers groups))) := by
  refine Json.children_checked (g := structureChildren modifiers groups) rfl ?_ ?_
  · exact fun _ _ _ => by rw [structureChildrenField]
  · funext v
    cases v with
    | arr l =>
      refine eachItem_eq (f := structureItems modifiers groups) (fun _ => rfl) ?_ l
      intro i v rest
      rw [structureItems, structureChild]
      split <;> rfl
    | _ => rfl

end Check

/-! ## Fragments -/

namespace Chrome

theorem childrenOfFields?_eq (fields : Entries Json) :
    childrenOfFields? fields =
      Json.defaulted (Json.decodeList childOfJson?) [] fields "children" := by
  refine Json.children_decoded (g := childrenOfJson?) rfl ?_ ?_
  · exact fun _ _ _ => by rw [childrenOfFields?]
  · funext v
    cases v with
    | arr l =>
      exact Json.items_decoded (f := childrenOfItems?) rfl
        (fun _ _ => by rw [childrenOfItems?]) l
    | _ => rfl

theorem childrenInRow?_eq (names : List String) (items : List Json) :
    childrenInRow? names items = childrenOfFields? (names.zip items) :=
  Json.children_inRow (g := childrenOfJson?) (fun _ => by rw [childrenInRow?])
    (fun _ _ => by rw [childrenInRow?]) (fun _ _ _ _ => by rw [childrenInRow?])
    (by rw [childrenOfFields?]) (fun _ _ _ => by rw [childrenOfFields?]) names items

/-- A child that is no text is a fragment. -/
theorem childOfJson?_eq {v : Json} (h : v.isText = false) :
    childOfJson? v = (ofJson? v).map .entry := by
  cases v with
  | str s => cases h
  | obj fields =>
    rw [childOfJson?, ofJson?, Json.decodeRecord_obj, Option.map_bind]
    rfl
  | arr items =>
    rw [childOfJson?, childrenInRow?_eq, ofJson?]
    exact Json.map_decodeRecord_arr
  | _ => rfl

end Chrome

namespace Check

/-- A child of a fragment. -/
def chromeChild (v : Json) : List Finding := if v.isText then [] else chromeEntry v

theorem chromeChildrenField_eq (fields : Entries Json) :
    chromeChildrenField fields =
      given fields "children" (array .array (eachItem chromeChild)) := by
  refine Json.children_checked (g := chromeChildren) rfl ?_ ?_
  · exact fun _ _ _ => by rw [chromeChildrenField]
  · funext v
    cases v with
    | arr l =>
      refine eachItem_eq (f := chromeItems) (fun _ => rfl) ?_ l
      intro i v rest
      rw [chromeItems, chromeChild]
      split <;> rfl
    | _ => rfl

end Check

/-! ## Slots -/

namespace Slot

theorem childrenOfFields?_eq (fields : Entries Json) :
    childrenOfFields? fields =
      Json.defaulted (Json.decodeList childOfJson?) [] fields "children" := by
  refine Json.children_decoded (g := childrenOfJson?) rfl ?_ ?_
  · exact fun _ _ _ => by rw [childrenOfFields?]
  · funext v
    cases v with
    | arr l =>
      exact Json.items_decoded (f := childrenOfItems?) rfl
        (fun _ _ => by rw [childrenOfItems?]) l
    | _ => rfl

end Slot

theorem Check.slotChildrenField_eq (ds : Declarations) (fields : Entries Json) :
    slotChildrenField ds fields =
      given fields "children" (array .array (eachItem (slotChild ds))) := by
  refine Json.children_checked (g := slotChildren ds) rfl ?_ ?_
  · exact fun _ _ _ => by rw [slotChildrenField]
  · funext v
    cases v with
    | arr l =>
      refine eachItem_eq (f := slotItems ds) (fun _ => rfl) ?_ l
      exact fun i v rest => by rw [slotItems]
    | _ => rfl

end Livery
