import Livery.Page.Coding
import Livery.Proofs.Restoring

/-!
# Documents and pages restored

Every document is read back from what is written for it (`Node.restored`) : the constructors of
`Node` are written as values of different kinds. What is written for a document that was read from
a value is known from the value alone (`Node.toJson_eq_document`). `Json.document` rounds the
numbers, puts texts for the values of attributes, drops attributes that are `null` and fields that
mean nothing, and keeps the order of everything else. An array is a list of documents if each item
is one, and a row of the fields of an element otherwise (`Node.ofJson?_arr`).

Pages are read back if their headings were read before (`Page.readAgain`), and what is written for
a page has the regions, the front matter and the content of the value that it was read from
(`Page.toJson_fields`). A page or a region may be a row of its fields as well : `Json.named` gives
such a row its names.
-/

namespace Livery

open Json (decodeRecord_obj decodeRecord_eq_some required_restored required_text defaulted_restored
  optional_text)

theorem Dict.mapValues_self {α : Type} (x : Dict α) : (x.mapValues fun _ a => a) = x :=
  ext_entries (List.map_id' _)

namespace Json

/-! ## Rows of fields -/

/-- A row of fields as the object with these names; any other value stays as it is. -/
def named (names : List String) : Json → Json
  | .arr items => .obj (names.zip items)
  | v => v

theorem named_of_recordFields? {names : List String} {v : Json} {fields : Entries Json}
    (h : recordFields? names v = some fields) : v.named names = .obj fields := by
  cases v with
  | obj fields' =>
    cases h
    rfl
  | arr items =>
    rw [recordFields?, Option.ite_none_right_eq_some, Option.some.injEq] at h
    rw [named, h.2]
  | _ => cases h

theorem wellFormedFields_zip : ∀ {names : List String} {items : List Json},
    WellFormedItems items → WellFormedFields (names.zip items)
  | [], _, _ => trivial
  | _ :: _, [], _ => trivial
  | _ :: _, _ :: _, h => ⟨h.1, wellFormedFields_zip h.2⟩

theorem keys_zip_sublist : ∀ (names : List String) (items : List Json),
    List.Sublist (Entries.keys (names.zip items)) names
  | [], _ => .slnil
  | _ :: _, [] => List.nil_sublist _
  | name :: names, _ :: rest => (keys_zip_sublist names rest).cons_cons name

theorem WellFormed.named {names : List String} {v : Json} (hnames : names.Nodup)
    (hv : v.WellFormed) : (v.named names).WellFormed := by
  cases v with
  | arr items =>
    rw [WellFormed] at hv
    rw [Json.named, WellFormed]
    exact ⟨(keys_zip_sublist names items).nodup hnames, wellFormedFields_zip hv⟩
  | _ => exact hv

/-! ## Values of documents -/

/-- The fields of a field, if it is an object. -/
def fieldsAt (v : Json) (key : String) : Entries Json :=
  ((v.field? key).bind asFields?).getD []

/-- The items of a field, if it is an array. -/
def itemsAt (v : Json) (key : String) : List Json := ((v.field? key).bind asItems?).getD []

/-- What is in a list that a field gives. -/
theorem exists_of_mem_at {β : Type} {f : Json → Option (List β)} {v : Json} {key : String} {b : β}
    (h : b ∈ ((v.field? key).bind f).getD []) :
    ∃ w l, v.field? key = some w ∧ f w = some l ∧ b ∈ l := by
  cases hl : (v.field? key).bind f with
  | none =>
    rw [hl] at h
    cases h
  | some l =>
    rw [hl] at h
    obtain ⟨w, hw, hf⟩ := Option.bind_eq_some_iff.mp hl
    exact ⟨w, l, hw, hf, h⟩

theorem mem_itemsAt {fields : Entries Json} {key : String} {v : Json}
    (h : v ∈ (obj fields).itemsAt key) : ∃ l, fields.lookup key = some (.arr l) ∧ v ∈ l := by
  obtain ⟨w, l, hw, hl, hmem⟩ := exists_of_mem_at h
  cases w with
  | arr items =>
    cases hl
    exact ⟨l, hw, hmem⟩
  | _ => cases hl

theorem mem_fieldsAt {fields : Entries Json} {key : String} {p : String × Json}
    (h : p ∈ (obj fields).fieldsAt key) : ∃ l, fields.lookup key = some (.obj l) ∧ p ∈ l := by
  obtain ⟨w, l, hw, hl, hmem⟩ := exists_of_mem_at h
  cases w with
  | obj fields =>
    cases hl
    exact ⟨l, hw, hmem⟩
  | _ => cases hl

theorem WellFormed.of_mem_itemsAt {fields : Entries Json} {key : String} {v : Json}
    (h : (obj fields).WellFormed) (hv : v ∈ (obj fields).itemsAt key) : v.WellFormed := by
  obtain ⟨l, hl, hmem⟩ := mem_itemsAt hv
  have hitems := h.lookup hl
  rw [WellFormed] at hitems
  exact of_mem_items hitems hmem

theorem WellFormed.of_mem_fieldsAt {fields : Entries Json} {key : String} {p : String × Json}
    (h : (obj fields).WellFormed) (hp : p ∈ (obj fields).fieldsAt key) : p.2.WellFormed := by
  obtain ⟨l, hl, hmem⟩ := mem_fieldsAt hp
  have hfields := h.lookup hl
  rw [WellFormed] at hfields
  exact of_mem hfields.2 hmem

section

variable {α : Type} {d : Decoder α} {f : α → Json} {g : Json → Json}
  {fields : Entries Json} {key : String}

/-- If each item is written in a normal form, then so is a list that was read. -/
theorem map_itemsAt {l : List α} (h : defaulted (decodeList d) [] fields key = some l)
    (hwrite : ∀ v ∈ (obj fields).itemsAt key, ∀ a, d v = some a → f a = g v) :
    l.map f = ((obj fields).itemsAt key).map g := by
  rcases defaulted_cases h with ⟨rfl, hv⟩ | ⟨v, hv, hl⟩
  · rw [itemsAt, field?, hv]
    rfl
  · obtain ⟨items, rfl, hitems⟩ := decodeList_eq_some hl
    have hat : (obj fields).itemsAt key = items := by rw [itemsAt, field?, hv]; rfl
    rw [hat] at hwrite ⊢
    exact map_eq_map_of_forall₂ hitems hwrite

/-- So is a map that was read, in the order of the fields. -/
theorem map_fieldsAt (hfields : (obj fields).WellFormed) {x : Dict α}
    (h : defaulted (decodeDict d) ∅ fields key = some x)
    (hwrite : ∀ p ∈ (obj fields).fieldsAt key, ∀ a, d p.2 = some a → f a = g p.2) :
    (x.mapValues fun _ a => f a).entries =
      ((obj fields).fieldsAt key).map fun p => (p.1, g p.2) := by
  rw [Dict.mapValues]
  rcases defaulted_cases h with ⟨rfl, hv⟩ | ⟨v, hv, hx⟩
  · rw [fieldsAt, field?, hv]
    rfl
  · obtain ⟨l, rfl, hl⟩ := decodeDict_eq_some (hfields.lookup hv) hx
    have hat : (obj fields).fieldsAt key = l := by rw [fieldsAt, field?, hv]; rfl
    rw [hat] at hwrite ⊢
    refine map_eq_map_of_forall₂ hl fun p hp q hq => ?_
    rw [hq.1, hwrite p hp q.2 hq.2]

theorem getD_of_defaulted_text {s value : String}
    (h : defaulted decodeText value fields key = some s) :
    (fields.lookup key).getD (.str value) = .str s := by
  rcases defaulted_cases h with ⟨rfl, hv⟩ | ⟨v, hv, hs⟩
  · rw [hv, Option.getD_none]
  · rw [hv, Option.getD_some, eq_str_of_asText? hs]

end

theorem field?_record {l : Entries (Option Json)} (hl : l.keys.Nodup) (key : String) :
    (record l).field? key = (l.lookup key).bind id :=
  Entries.lookup_filterMap (fun _ v => v) key hl

/-- The value, unless it is `null`. -/
def present? : Json → Option Json
  | .null => none
  | v => some v

theorem present?_eq_some {v w : Json} (h : v.present? = some w) : v = w ∧ w ≠ .null := by
  cases v with
  | null => cases h
  | _ =>
    cases h
    exact ⟨rfl, fun hnull => by cases hnull⟩

/-- A field that may be absent is read from a value other than `null`. -/
theorem optional_present {α : Type} {d : Decoder α} {fields : Entries Json} {key : String}
    {x : Option α} (h : optional d fields key = some x) :
    (x = none ∧ (fields.lookup key).bind present? = none) ∨
      ∃ v a, (fields.lookup key).bind present? = some v ∧ d v = some a ∧ x = some a := by
  rcases optional_cases h with ⟨rfl, hv | hv⟩ | ⟨v, a, hv, ha, rfl⟩
  · exact Or.inl ⟨rfl, by rw [hv, Option.bind_none]⟩
  · exact Or.inl ⟨rfl, by rw [hv, Option.bind_some, present?]⟩
  · cases v with
    | null =>
      rw [optional, hv] at h
      cases h
    | _ => exact Or.inr ⟨_, a, by rw [hv, Option.bind_some, present?]; simp, ha, rfl⟩

/-- The attributes among the fields of an element, with their texts. -/
def textFields (v : Json) : Entries Json :=
  (v.fieldsAt "attributes").filterMap fun p => (Attrs.valueText? p.2).map fun s => (p.1, .str s)

/-- The value that is written for an element that was read from an object, with what is written for
its children. -/
def elementValue (v : Json) (children : List Json) : Json :=
  .obj [("$$mdtype", .str "Tag"), ("name", (v.field? "name").getD .null),
    ("attributes", .obj (textFields v)), ("children", .arr children)]

mutual

/-- The value that is written for the document that a value describes. -/
def document : Json → Json
  | .num n => .num (.float n.toDouble)
  | .arr items =>
    if items.all fun v => (Node.ofJson? v).isSome then .arr (documentAll items)
    else ((arr items).named Element.fieldNames).elementValue
      (documentInRow Element.fieldNames items)
  | .obj fields => (obj fields).elementValue (documentField fields)
  | v => v

/-- The values that are written for a list of documents. -/
def documentAll : List Json → List Json
  | [] => []
  | v :: rest => document v :: documentAll rest

/-- The values that are written for the children among some fields. -/
def documentField : List (String × Json) → List Json
  | [] => []
  | (key, v) :: rest => if key = "children" then documentItems v else documentField rest

/-- The values that are written for the children in a row of fields. -/
def documentInRow : List String → List Json → List Json
  | [], _ => []
  | _ :: _, [] => []
  | name :: names, v :: rest =>
    if name = "children" then documentItems v else documentInRow names rest

/-- The values that are written for the items of an array. -/
def documentItems : Json → List Json
  | .arr items => documentAll items
  | _ => []

end

theorem documentAll_eq : ∀ l : List Json, documentAll l = l.map document
  | [] => by simp [documentAll]
  | v :: rest => by simp [documentAll, documentAll_eq rest]

theorem documentField_eq (fields : Entries Json) :
    documentField fields = ((obj fields).itemsAt "children").map document := by
  have hcons : ∀ key v rest, documentField ((key, v) :: rest) =
      if key = "children" then documentItems v else documentField rest :=
    fun _ _ _ => by rw [documentField]
  rw [children_eq_elim documentField documentItems (by rw [documentField]) hcons, itemsAt, field?]
  cases fields.lookup "children" with
  | none => rfl
  | some v =>
    cases v with
    | arr items => simp [documentItems, asItems?, documentAll_eq]
    | _ => simp [documentItems, asItems?]

theorem documentInRow_eq (items : List Json) : documentInRow Element.fieldNames items =
    (((arr items).named Element.fieldNames).itemsAt "children").map document := by
  rw [named, ← documentField_eq]
  exact children_inRow (g := documentItems) (fun _ => by rw [documentInRow])
    (fun _ _ => by rw [documentInRow]) (fun _ _ _ _ => by rw [documentInRow])
    (by rw [documentField]) (fun _ _ _ => by rw [documentField]) _ items

theorem document_list {items : List Json} (h : ∀ v ∈ items, (Node.ofJson? v).isSome = true) :
    (arr items).document = .arr (items.map document) := by
  rw [document, if_pos (List.all_eq_true.mpr h), documentAll_eq]

/-- What is written for the element that an object or a row of fields describes. -/
def elementDocument (v : Json) : Json :=
  let w := v.named Element.fieldNames
  w.elementValue ((w.itemsAt "children").map document)

theorem document_obj (fields : Entries Json) :
    (obj fields).document = (obj fields).elementDocument := by
  rw [document, documentField_eq, elementDocument, named]
  simp

theorem document_row {items : List Json} (h : ¬∀ v ∈ items, (Node.ofJson? v).isSome = true) :
    (arr items).document = (arr items).elementDocument := by
  rw [document, if_neg (by rwa [List.all_eq_true]), documentInRow_eq, elementDocument]

theorem sizeOf_lt_of_mem_children {v w : Json}
    (h : w ∈ (v.named Element.fieldNames).itemsAt "children") : sizeOf w < sizeOf v := by
  cases v with
  | obj fields =>
    obtain ⟨l, hl, hw⟩ := mem_itemsAt h
    have hitem := List.sizeOf_lt_of_mem hw
    have hfield := sizeOf_lt_of_lookup hl
    rw [Json.arr.sizeOf_spec] at hfield
    rw [Json.obj.sizeOf_spec]
    omega
  | arr items =>
    obtain ⟨l, hl, hw⟩ := mem_itemsAt h
    have hitem := List.sizeOf_lt_of_mem hw
    have hrow := List.sizeOf_lt_of_mem (List.of_mem_zip (Entries.mem_of_lookup hl)).2
    rw [Json.arr.sizeOf_spec] at hrow ⊢
    omega
  | _ => cases h

/-- Induction on values along arrays and the arrays of children. -/
theorem documentInduct {motive : Json → Prop}
    (step : ∀ v, (∀ l, v = .arr l → ∀ w ∈ l, motive w) →
      (∀ w ∈ (v.named Element.fieldNames).itemsAt "children", motive w) → motive v)
    (v : Json) : motive v := by
  refine step v (fun l hl w hw => ?_) (fun w hw => ?_)
  · exact documentInduct step w
  · exact documentInduct step w
termination_by sizeOf v
decreasing_by
  · have hitem := List.sizeOf_lt_of_mem hw
    rw [hl, Json.arr.sizeOf_spec]
    omega
  · exact sizeOf_lt_of_mem_children hw

end Json

/-! ## Documents -/

namespace Node

theorem allToJson_eq : ∀ l : List Node, allToJson l = l.map toJson
  | [] => by simp [allToJson]
  | n :: rest => by simp [allToJson, allToJson_eq rest]

theorem toJson_array (nodes : List Node) : (array nodes).toJson = .arr (nodes.map toJson) := by
  rw [toJson, allToJson_eq]

theorem toJson_element (e : Element) : (element e).toJson =
    .obj [("$$mdtype", .str "Tag"), ("name", .str e.name), ("attributes", Json.ofTexts e.attrs),
      ("children", .arr (e.children.map toJson))] := by
  obtain ⟨name, attrs, children⟩ := e
  rw [toJson, allToJson_eq]

theorem allOfJson?_eq (l : List Json) : allOfJson? l = l.mapM ofJson? :=
  Json.items_decoded (by rw [allOfJson?]) (fun _ _ => by rw [allOfJson?]) l

theorem childrenOfFields?_eq (fields : Entries Json) :
    childrenOfFields? fields = Json.defaulted (Json.decodeList ofJson?) [] fields "children" := by
  refine Json.children_decoded (g := childrenOfJson?) (by rw [childrenOfFields?]) ?_ ?_
  · exact fun _ _ _ => by rw [childrenOfFields?]
  · funext v
    cases v with
    | arr l => rw [childrenOfJson?, allOfJson?_eq, Json.decodeList]
    | _ => rw [childrenOfJson?, Json.decodeList] <;> simp

theorem childrenInRow?_eq (names : List String) (items : List Json) :
    childrenInRow? names items = childrenOfFields? (names.zip items) :=
  Json.children_inRow (g := childrenOfJson?) (fun _ => by rw [childrenInRow?])
    (fun _ _ => by rw [childrenInRow?]) (fun _ _ _ _ => by rw [childrenInRow?])
    (by rw [childrenOfFields?]) (fun _ _ _ => by rw [childrenOfFields?]) names items

theorem ofJson?_obj (fields : Entries Json) :
    ofJson? (.obj fields) = (Element.ofJson? (.obj fields)).map .element := by
  rw [ofJson?, Element.ofJson?, decodeRecord_obj, Option.map_bind]
  rfl

/-- An array is a list of documents, or else a row of the fields of an element. -/
theorem ofJson?_arr (items : List Json) : ofJson? (.arr items) =
    ((Json.decodeList ofJson? (.arr items)).map .array).or
      ((Element.ofJson? (.arr items)).map .element) := by
  rw [ofJson?, allOfJson?_eq, Json.decodeList, childrenInRow?_eq, Element.ofJson?]
  exact congrArg _ Json.map_decodeRecord_arr

/-- An array that was read is a list of documents, or it is an element and not all of its items are
documents. -/
theorem cases_of_ofJson?_arr {items : List Json} {n : Node} (h : ofJson? (.arr items) = some n) :
    (∃ nodes, items.mapM ofJson? = some nodes ∧ n = .array nodes) ∨
      (¬∀ w ∈ items, (ofJson? w).isSome = true) ∧
        ∃ e, Element.ofJson? (.arr items) = some e ∧ n = .element e := by
  rw [ofJson?_arr, Json.decodeList] at h
  cases hnodes : items.mapM ofJson? with
  | some nodes =>
    rw [hnodes, Option.map_some, Option.some_or, Option.some.injEq] at h
    exact Or.inl ⟨nodes, rfl, h.symm⟩
  | none =>
    rw [hnodes, Option.map_none, Option.none_or] at h
    obtain ⟨e, he, rfl⟩ := Option.map_eq_some_iff.mp h
    refine Or.inr ⟨?_, e, he, rfl⟩
    rw [← List.all_eq_true, ← isSome_mapM, hnodes]
    exact Bool.false_ne_true

end Node

theorem Attrs.restored (a : Attrs) : ofJson? (Json.ofTexts a) = some a := by
  have hentries : ((a.mapValues fun _ s => Json.str s).entries.filterMap
      fun p => (valueText? p.2).map fun s => (p.1, s)) = a.entries := by
    rw [Dict.mapValues, List.filterMap_map]
    simp [Function.comp_def, valueText?]
  rw [Json.ofTexts, ofJson?, hentries, Dict.ofList_entries]

/-- Every document is read back from what is written for it. -/
theorem Node.restored (n : Node) : ofJson? n.toJson = some n := by
  induction n using induct with
  | leaf n hn =>
    cases n with
    | array nodes => cases hn
    | element e => cases hn
    | _ => simp [toJson, ofJson?, Json.Number.toDouble]
  | array nodes ih =>
    rw [toJson_array, ofJson?_arr, Json.decodeList_restored ih, Option.map_some, Option.some_or]
  | element e ih =>
    obtain ⟨name, attrs, children⟩ := e
    rw [toJson_element, ofJson?_obj, Element.ofJson?, decodeRecord_obj, childrenOfFields?_eq,
      defaulted_restored (Json.decodeList_restored ih) rfl, Option.bind_some, ofFields?,
      required_text rfl, defaulted_restored attrs.restored rfl]
    rfl

/-- Attributes keep their order, with the texts for their values. -/
theorem Attrs.ofTexts_eq {fields : Entries Json} {attrs : Attrs}
    (hfields : (Json.obj fields).WellFormed)
    (h : Json.defaulted ofJson? ∅ fields "attributes" = some attrs) :
    Json.ofTexts attrs = .obj (Json.textFields (.obj fields)) := by
  have hwritten : Json.ofTexts attrs = .obj (attrs.entries.map fun p => (p.1, .str p.2)) := rfl
  rw [hwritten, Json.textFields, Json.fieldsAt, Json.field?]
  rcases Json.defaulted_cases h with ⟨rfl, hv⟩ | ⟨v, hv, hattrs⟩
  · rw [hv]
    rfl
  · have hwf := hfields.lookup hv
    cases v with
    | obj l =>
      rw [Json.WellFormed] at hwf
      have hkeys := (Entries.keys_filterMap_sublist (fun _ => valueText?) l).nodup hwf.1
      cases hattrs
      rw [Dict.entries_ofList hkeys, hv, List.map_filterMap]
      simp [Json.asFields?, Function.comp_def]
    | _ => cases hattrs

/-- What is written for an element that was read is known from the value, if that is so for its
children. -/
theorem Element.toJson_eq_elementDocument {v : Json} {e : Element} (hv : v.WellFormed)
    (he : ofJson? v = some e)
    (hbelow : ∀ w ∈ (v.named fieldNames).itemsAt "children", ∀ n, w.WellFormed →
      Node.ofJson? w = some n → n.toJson = w.document) :
    (Node.element e).toJson = v.elementDocument := by
  obtain ⟨fields, hfields, h⟩ := decodeRecord_eq_some he
  have hwf : (v.named fieldNames).WellFormed := hv.named (by decide)
  rw [Json.elementDocument]
  rw [Json.named_of_recordFields? hfields] at hbelow hwf ⊢
  rw [Node.childrenOfFields?_eq] at h
  obtain ⟨children, hchildren, hown⟩ := Option.bind_eq_some_iff.mp h
  simp only [Node.ofFields?, Option.bind_eq_bind, Option.bind_eq_some_iff,
    Option.some.injEq] at hown
  obtain ⟨name, hname, attrs, hattrs, rfl⟩ := hown
  have hwritten : children.map Node.toJson =
      ((Json.obj fields).itemsAt "children").map Json.document :=
    Json.map_itemsAt hchildren fun w hw n hn => hbelow w hw n (hwf.of_mem_itemsAt hw) hn
  rw [Node.toJson_element, Attrs.ofTexts_eq hwf hattrs, hwritten, Json.elementValue, Json.field?,
    Json.lookup_of_required_text hname, Option.getD_some]

/-- What is written for a document that was read is known from the value. -/
theorem Node.toJson_eq_document (v : Json) :
    ∀ n, v.WellFormed → ofJson? v = some n → n.toJson = v.document := by
  induction v using Json.documentInduct with
  | step v hlist hchildren =>
    intro n hv hn
    cases v with
    | obj fields =>
      rw [ofJson?_obj] at hn
      obtain ⟨e, he, rfl⟩ := Option.map_eq_some_iff.mp hn
      rw [Json.document_obj, Element.toJson_eq_elementDocument hv he hchildren]
    | arr items =>
      rcases cases_of_ofJson?_arr hn with ⟨nodes, hnodes, rfl⟩ | ⟨hnot, e, he, rfl⟩
      · have hitems := hv
        rw [Json.WellFormed] at hitems
        have hall : ∀ w ∈ items, (ofJson? w).isSome = true := by
          rw [← List.all_eq_true, ← isSome_mapM, hnodes]
          rfl
        rw [toJson_array, Json.document_list hall,
          map_eq_map_of_forall₂ ((mapM_eq_some_iff _ _ _).mp hnodes) fun w hw m hm =>
            hlist items rfl w hw m (Json.WellFormed.of_mem_items hitems hw) hm]
      · rw [Json.document_row hnot, Element.toJson_eq_elementDocument hv he hchildren]
    | bool b => simp [ofJson?] at hn
    | _ =>
      simp only [ofJson?, Option.some.injEq] at hn
      subst hn
      simp [toJson, Json.document]

/-! ## Pages -/

theorem Region.restored (r : Region) : ofJson? r.toJson = some r := by
  rw [toJson, ofJson?, decodeRecord_obj, defaulted_restored (Json.decodeText_restored _) rfl,
    defaulted_restored (Json.decodeText_restored _) rfl,
    defaulted_restored (Json.decodeList_restored fun n _ => n.restored) rfl]
  rfl

theorem PageEntry.restored (e : PageEntry) : ofJson? e.toJson = some e := by
  refine Json.record_restored (by simp [Entries.keys]) fun fields h => ?_
  rw [ofJson?, decodeRecord_obj, required_text (h "url" _ rfl),
    defaulted_restored (Json.decodeText_restored _) (h "title" _ rfl),
    defaulted_restored (Json.decodeBool_restored _) (h "draft" _ rfl),
    optional_text (h "version" _ rfl), optional_text (h "versionGroup" _ rfl)]
  rfl

theorem Heading.readAgain (v : Json) (x : Heading) (hx : ofJson? v = some x) :
    ofJson? x.toJson = some x := by
  obtain ⟨_, -, hx⟩ := decodeRecord_eq_some hx
  simp only [Option.bind_eq_bind, Option.bind_eq_some_iff, Option.some.injEq] at hx
  obtain ⟨level, hlevel, text, -, id, -, rfl⟩ := hx
  obtain ⟨w, -, hw⟩ := Option.bind_eq_some_iff.mp hlevel
  rw [toJson, ofJson?, decodeRecord_obj,
    required_restored (Json.decodeBelow_restored (Json.lt_of_decodeBelow hw)) rfl,
    required_text rfl, required_text rfl]
  rfl

theorem Node.eq_null_of_toJson {n : Node} (h : n.toJson = .null) : n = .null := by
  cases n with
  | null => rfl
  | element e =>
    rw [toJson_element] at h
    cases h
  | _ =>
    rw [toJson] at h
    cases h

theorem Node.eq_null_of_ofJson? {v : Json} (h : ofJson? v = some .null) : v = .null := by
  cases v with
  | null => rfl
  | obj fields =>
    rw [ofJson?_obj] at h
    obtain ⟨_, -, hnull⟩ := Option.map_eq_some_iff.mp h
    cases hnull
  | arr items =>
    rcases cases_of_ofJson?_arr h with ⟨_, -, hnull⟩ | ⟨-, _, -, hnull⟩ <;> cases hnull
  | _ => simp [ofJson?] at h

/-- A document that may be absent is restored : `null` was read as its absence, so no document that
was read is written as `null`. -/
theorem Node.optional_readAgain {fields before : Entries Json} {key : String} {x : Option Node}
    (hx : Json.optional ofJson? before key = some x)
    (hfield : fields.lookup key = x.map toJson) : Json.optional ofJson? fields key = some x := by
  rw [Json.optional, hfield]
  rcases Json.optional_present hx with ⟨rfl, -⟩ | ⟨v, n, hv, hread, rfl⟩
  · rfl
  · -- A document that is `null` would come back as an absent one.
    have hn : n.toJson ≠ .null := by
      intro hnull
      obtain rfl := eq_null_of_toJson hnull
      obtain ⟨w, -, hw⟩ := Option.bind_eq_some_iff.mp hv
      exact (Json.present?_eq_some hw).2 (eq_null_of_ofJson? hread)
    rw [Option.map_some]
    split
    · rename_i h
      cases h
    · rename_i h
      exact absurd (Option.some.inj h) hn
    · rename_i v _ h
      rw [← Option.some.inj h, n.restored, Option.map_some]

namespace Json

/-- The value that is written for the region that a value describes. -/
def region (v : Json) : Json :=
  let w := v.named Region.fieldNames
  .obj [("name", (w.field? "name").getD (.str "")), ("mode", (w.field? "mode").getD (.str "")),
    ("content", .arr ((w.itemsAt "content").map document))]

end Json

theorem Region.toJson_eq_region {v : Json} {r : Region} (hv : v.WellFormed)
    (hr : ofJson? v = some r) : r.toJson = v.region := by
  obtain ⟨fields, hfields, h⟩ := decodeRecord_eq_some hr
  have hwf : (v.named fieldNames).WellFormed := hv.named (by decide)
  rw [Json.region]
  rw [Json.named_of_recordFields? hfields] at hwf ⊢
  simp only [Option.bind_eq_bind, Option.bind_eq_some_iff, Option.some.injEq] at h
  obtain ⟨name, hname, mode, hmode, content, hcontent, rfl⟩ := h
  rw [toJson, Json.field?, Json.field?, Json.getD_of_defaulted_text hname,
    Json.getD_of_defaulted_text hmode, Json.map_itemsAt hcontent fun w hw n hn =>
      Node.toJson_eq_document w n (hwf.of_mem_itemsAt hw) hn]

namespace Page

theorem readAgain (v : Json) (p : Page) (hp : ofJson? v = some p) : ofJson? p.toJson = some p := by
  obtain ⟨_, -, hp⟩ := decodeRecord_eq_some hp
  simp only [Option.bind_eq_bind, Option.bind_eq_some_iff, Option.some.injEq] at hp
  obtain ⟨renderable, hrenderable, regions, -, title, -, url, -, pages, -, frontmatter, -,
    headings, hheadings, rfl⟩ := hp
  have hheadings' : ∀ x ∈ headings, Heading.ofJson? x.toJson = some x := by
    intro x hx
    obtain ⟨_, -, w, -, hw⟩ := Json.exists_of_mem_items hheadings hx
    exact x.readAgain w hw
  have hfrontmatter : Json.decodeDict Json.decodeAny (.obj frontmatter.entries) =
      some frontmatter := by
    have h : Json.decodeDict Json.decodeAny
        (.obj (frontmatter.mapValues fun _ w => w).entries) = some frontmatter :=
      Json.decodeDict_restored fun _ _ => rfl
    rwa [Dict.mapValues_self] at h
  refine Json.record_restored (by simp [Entries.keys]) fun fields h => ?_
  rw [ofJson?, decodeRecord_obj, Node.optional_readAgain hrenderable (h "renderable" _ rfl),
    defaulted_restored (Json.decodeDict_restored fun r _ => r.restored) (h "regions" _ rfl),
    defaulted_restored (Json.decodeText_restored _) (h "title" _ rfl),
    defaulted_restored (Json.decodeText_restored _) (h "url" _ rfl),
    defaulted_restored (Json.decodeList_restored fun e _ => e.restored) (h "pages" _ rfl),
    defaulted_restored hfrontmatter (h "frontmatter" _ rfl),
    defaulted_restored (Json.decodeList_restored hheadings') (h "headings" _ rfl)]
  rfl

theorem field?_toJson (p : Page) :
    p.toJson.field? "renderable" = p.renderable.map Node.toJson ∧
    p.toJson.field? "regions" = some p.regionsJson ∧
    p.toJson.field? "frontmatter" = some p.frontmatterJson := by
  rw [toJson]
  refine ⟨?_, ?_, ?_⟩ <;> rw [Json.field?_record (by simp [Entries.keys])] <;> rfl

/-- What is written for a page that was read has the content, the regions and the front matter of
the value. -/
theorem toJson_fields {v : Json} {p : Page} (hv : v.WellFormed) (hp : ofJson? v = some p) :
    p.toJson.field? "renderable" =
      (((v.named fieldNames).field? "renderable").bind Json.present?).map Json.document ∧
    p.toJson.fieldsAt "regions" =
      ((v.named fieldNames).fieldsAt "regions").map (fun q => (q.1, q.2.region)) ∧
    p.toJson.fieldsAt "frontmatter" = (v.named fieldNames).fieldsAt "frontmatter" := by
  obtain ⟨hcontent, hregionsJson, hmatterJson⟩ := p.field?_toJson
  obtain ⟨fields, hfields, h⟩ := decodeRecord_eq_some hp
  have hwf : (v.named fieldNames).WellFormed := hv.named (by decide)
  rw [Json.named_of_recordFields? hfields] at hwf ⊢
  simp only [Option.bind_eq_bind, Option.bind_eq_some_iff, Option.some.injEq] at h
  obtain ⟨renderable, hrenderable, regions, hregions, title, -, url, -, pages, -, frontmatter,
    hfrontmatter, headings, -, rfl⟩ := h
  refine ⟨?_, ?_, ?_⟩
  · rw [hcontent, Json.field?]
    rcases Json.optional_present hrenderable with ⟨rfl, hnone⟩ | ⟨w, n, hw, hread, rfl⟩
    · rw [hnone]
      rfl
    · obtain ⟨u, hu, hpresent⟩ := Option.bind_eq_some_iff.mp hw
      obtain ⟨rfl, -⟩ := Json.present?_eq_some hpresent
      rw [hw, Option.map_some, Option.map_some, Node.toJson_eq_document _ n (hwf.lookup hu) hread]
  · rw [Json.fieldsAt, hregionsJson, Option.bind_some]
    exact Json.map_fieldsAt hwf hregions fun q hq r hr =>
      Region.toJson_eq_region (hwf.of_mem_fieldsAt hq) hr
  · rw [Json.fieldsAt, hmatterJson, Option.bind_some]
    have h := Json.map_fieldsAt (f := fun w => w) (g := fun w => w) hwf hfrontmatter
      fun q _ w hw => (Option.some.inj hw).symm
    rw [Dict.mapValues_self] at h
    exact h.trans (List.map_id' _)

end Page

/--
Writing a document or a page and reading it again changes nothing, down to the order of attributes,
regions, front matter and children. What is written has the order of the value that was read first,
if that is well-formed : `Json.document` keeps it at every depth, with the texts that were read for
the values of attributes and without attributes that were `null`. For a page its content and its
regions are of that form, and the front matter is that of the value itself.
-/
theorem document_restored (v : Json) :
    (∀ n, Node.ofJson? v = some n →
      Node.ofJson? n.toJson = some n ∧ (v.WellFormed → n.toJson = v.document)) ∧
    ∀ p, Page.ofJson? v = some p →
      Page.ofJson? p.toJson = some p ∧
      (v.WellFormed →
        p.toJson.field? "renderable" = (((v.named Page.fieldNames).field? "renderable").bind
          Json.present?).map Json.document ∧
        p.toJson.fieldsAt "regions" =
          ((v.named Page.fieldNames).fieldsAt "regions").map (fun q => (q.1, q.2.region)) ∧
        p.toJson.fieldsAt "frontmatter" = (v.named Page.fieldNames).fieldsAt "frontmatter") :=
  ⟨fun n hn => ⟨n.restored, fun hv => n.toJson_eq_document v hv hn⟩,
    fun p hp => ⟨p.readAgain v hp, fun hv => Page.toJson_fields hv hp⟩⟩

/-- The attributes of an item, with values of all kinds. -/
def mixedAttributes : Json :=
  .obj [("open", .bool true), ("id", .null), ("value", .num (.int 3)), ("class", .str "b")]

/-- An item as an object. -/
def mixedItem : Json :=
  .obj [("children", .arr [.num (.int 4), .str "a", .null]), ("name", .str "li"),
    ("attributes", mixedAttributes)]

/-- The same item as a row of its fields. -/
def itemRow : Json :=
  .arr [.str "li", mixedAttributes, .arr [.num (.int 4), .str "a", .null]]

/-- The value that is written for the item. -/
def plainItem : Json :=
  .obj [("$$mdtype", .str "Tag"), ("name", .str "li"),
    ("attributes", .obj [("open", .str "true"), ("value", .str "3"), ("class", .str "b")]),
    ("children", .arr [.num (.float (Double.ofInt 4)), .str "a", .null])]

/-- A page with the item as its content and in a region, and a second region as a row. -/
def mixedPage : Json :=
  .obj [("frontmatter", .obj [("b", .num (.int 1)), ("a", .null)]), ("renderable", mixedItem),
    ("regions", .obj [("nav", .obj [("content", .arr [itemRow])]), ("aside", .arr [.str "side"])])]

theorem document_restored_mixedPage :
    mixedPage.WellFormed ∧
    (∀ v ∈ [mixedItem, itemRow], ∃ n, Node.ofJson? v = some n ∧ n.toJson = plainItem ∧
      Node.ofJson? plainItem = some n) ∧
    ∃ p, Page.ofJson? mixedPage = some p ∧ Page.ofJson? p.toJson = some p ∧
      p.toJson.field? "renderable" = some plainItem ∧
      p.toJson.fieldsAt "regions" =
        [("nav", .obj [("name", .str ""), ("mode", .str ""), ("content", .arr [plainItem])]),
         ("aside", .obj [("name", .str "side"), ("mode", .str ""), ("content", .arr [])])] ∧
      p.toJson.fieldsAt "frontmatter" = [("b", .num (.int 1)), ("a", .null)] := by
  have hpage : mixedPage.WellFormed := by
    simp [mixedPage, mixedItem, itemRow, mixedAttributes, Json.WellFormed, Json.WellFormedFields,
      Json.WellFormedItems, Entries.keys]
  have hitems : ∀ v ∈ [mixedItem, itemRow], ∃ n, Node.ofJson? v = some n ∧ n.toJson = plainItem ∧
      Node.ofJson? plainItem = some n := by
    intro v hv
    have hwf : v.WellFormed := by
      rcases List.mem_pair.mp hv with rfl | rfl <;>
        simp [mixedItem, itemRow, mixedAttributes, Json.WellFormed, Json.WellFormedFields,
          Json.WellFormedItems, Entries.keys]
    obtain ⟨n, hn, hplain⟩ : ∃ n, Node.ofJson? v = some n ∧ v.document = plainItem := by
      rcases List.mem_pair.mp hv with rfl | rfl <;> exact ⟨_, rfl, rfl⟩
    obtain ⟨hrestored, hwritten⟩ := (document_restored v).1 n hn
    have hn' : n.toJson = plainItem := (hwritten hwf).trans hplain
    exact ⟨n, hn, hn', hn' ▸ hrestored⟩
  obtain ⟨p, hp⟩ : ∃ p, Page.ofJson? mixedPage = some p := ⟨_, rfl⟩
  obtain ⟨hrestored, hfields⟩ := (document_restored mixedPage).2 p hp
  obtain ⟨hcontent, hregions, hmatter⟩ := hfields hpage
  refine ⟨hpage, hitems, p, hp, hrestored, hcontent, ?_, hmatter⟩
  rw [hregions]
  rfl

end Livery
