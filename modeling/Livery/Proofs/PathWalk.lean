import Livery.Page.Lookup
import Livery.Proofs.DocumentRestored

/-!
# Paths as walks

One step into a value goes to a field of an object, to an item of an array, or to the length of a
text (`Json.Leads`), and a walk takes one step after another (`Json.Reaches`). A path into page data
is such a walk whatever it starts with (`Page.lookup_uniform`). One segment more is one step more,
and the walk could as well start from the value that describes the whole page, although the page is
never written for it and the front matter is read directly.

A page without content is the exception. Its path `renderable` names `null`, but the value of the
page has no such field.
-/

namespace Livery

namespace Text

/-- Whether a text reads as a number : in decimal digits, perhaps with a plus sign in front. -/
def ReadsAs (s : String) (n : Nat) : Prop :=
  ∃ sign digits, (sign = [] ∨ sign = ['+']) ∧ s.toList = sign ++ digits ∧
    digits ≠ [] ∧ (∀ c ∈ digits, c.isDigit = true) ∧ digitsValue digits = n

theorem natural?_eq_some_iff {cs : List Char} {n : Nat} :
    natural? cs = some n ↔ cs ≠ [] ∧ (∀ c ∈ cs, c.isDigit = true) ∧ digitsValue cs = n := by
  simp [natural?, and_assoc]

theorem eq_of_splitChars_eq_singleton {separator : Char} : ∀ {cs ds : List Char},
    splitChars separator cs = [ds] → cs = ds
  | [], ds, h => List.singleton_inj.mp h
  | c :: cs, ds, h => by
    rw [splitChars] at h
    split at h
    · exact absurd (List.cons.inj h).2 (splitChars_ne_nil separator cs)
    · split at h
      · rename_i hnil
        exact absurd hnil (splitChars_ne_nil separator cs)
      · rename_i piece pieces hcons
        obtain ⟨rfl, rfl⟩ := List.cons.inj h
        rw [eq_of_splitChars_eq_singleton hcons]

/-- A text without separators is its only segment. -/
theorem eq_of_split_eq_singleton {separator : Char} {s t : String} (h : split separator s = [t]) :
    s = t := by
  obtain ⟨ds, hds, rfl⟩ := List.map_eq_singleton_iff.mp h
  rw [← eq_of_splitChars_eq_singleton hds, String.ofList_toList]

end Text

namespace Json

theorem index?_eq_some_iff {segment : String} {i : Nat} :
    index? segment = some i ↔ Text.ReadsAs segment i := by
  rw [index?, Text.natural?_eq_some_iff, Text.ReadsAs]
  constructor
  · intro h
    split at h
    · rename_i rest hrest
      exact ⟨['+'], rest, .inr rfl, hrest, h⟩
    · exact ⟨[], segment.toList, .inl rfl, rfl, h⟩
  · rintro ⟨sign, digits, rfl | rfl, hsegment, hne, hdigits, hvalue⟩
    · split
      · rename_i rest hrest
        -- a plus sign is not a digit
        rw [hsegment, List.nil_append] at hrest
        subst hrest
        exact absurd (hdigits '+' List.mem_cons_self) (by decide)
      · rw [hsegment]
        exact ⟨hne, hdigits, hvalue⟩
    · rw [hsegment]
      exact ⟨hne, hdigits, hvalue⟩

/-- Whether a segment leads from one value to another. -/
inductive Leads (segment : String) : Json → Json → Prop
  /-- The field of an object. -/
  | field {fields : Entries Json} {v : Json} (h : fields.lookup segment = some v) :
      Leads segment (.obj fields) v
  /-- The item of an array at the index that the segment writes. -/
  | item {items : List Json} {i : Nat} {v : Json} (hi : Text.ReadsAs segment i)
      (h : items[i]? = some v) : Leads segment (.arr items) v
  /-- The number of characters of a text. -/
  | length {s : String} (h : segment = "length") : Leads segment (.str s) (ofNat s.length)

theorem member?_eq_some_iff {v w : Json} {segment : String} :
    v.member? segment = some w ↔ v.Leads segment w := by
  constructor
  · intro h
    cases v with
    | obj fields => exact .field h
    | arr items =>
      obtain ⟨i, hi, hitem⟩ := Option.bind_eq_some_iff.mp h
      exact .item (index?_eq_some_iff.mp hi) hitem
    | str s =>
      rw [member?] at h
      split at h
      · rename_i hlength
        cases h
        exact .length hlength
      · cases h
    | _ => cases h
  · intro h
    cases h with
    | field h => exact h
    | item hi h =>
      rw [member?, index?_eq_some_iff.mpr hi]
      exact h
    | length h => rw [member?, if_pos h]

/-- Whether a value is reached from another one along some segments. -/
inductive Reaches : Json → List String → Json → Prop
  | here (v : Json) : Reaches v [] v
  | further {v u w : Json} {segment : String} {segments : List String} (h : v.Leads segment u)
      (hrest : Reaches u segments w) : Reaches v (segment :: segments) w

theorem walk?_cons (v : Json) (segment : String) (segments : List String) :
    v.walk? (segment :: segments) = (v.member? segment).bind fun u => u.walk? segments :=
  List.foldlM_cons ..

theorem walk?_snoc (v : Json) (segments : List String) (segment : String) :
    v.walk? (segments ++ [segment]) = (v.walk? segments).bind fun u => u.member? segment := by
  rw [walk?, List.foldlM_append]
  refine congrArg _ (funext fun u => ?_)
  rw [List.foldlM_cons]
  exact Option.bind_fun_some _

theorem walk?_eq_some_iff {w : Json} : ∀ {segments : List String} {v : Json},
    v.walk? segments = some w ↔ v.Reaches segments w
  | [], v => by
    constructor
    · rintro ⟨⟩
      exact .here _
    · rintro ⟨⟩
      rfl
  | segment :: segments, v => by
    rw [walk?_cons, Option.bind_eq_some_iff]
    constructor
    · rintro ⟨u, hu, hw⟩
      exact .further (member?_eq_some_iff.mp hu) (walk?_eq_some_iff.mp hw)
    · intro h
      cases h with
      | further hu hw => exact ⟨_, member?_eq_some_iff.mpr hu, walk?_eq_some_iff.mpr hw⟩

end Json

namespace Page

/-- A value of the front matter is taken directly, but this is the walk from the front matter. -/
theorem lookupSegments?_cons (p : Page) (segment : String) (rest : List String) :
    p.lookupSegments? (segment :: rest) = (p.root? segment).bind fun v => v.walk? rest := by
  unfold lookupSegments?
  split
  · rename_i key rest heq
    cases heq
    exact (p.frontmatterJson.walk?_cons key rest).symm
  · rename_i heq
    cases heq
    rfl
  · rename_i heq
    cases heq

theorem exists_split (path : String) : ∃ segment rest, Text.split '.' path = segment :: rest := by
  refine List.exists_cons_of_ne_nil fun h => ?_
  exact Text.splitChars_ne_nil '.' path.toList (List.map_eq_nil_iff.mp h)

/-- One segment more is one step more. -/
theorem lookup?_snoc (p : Page) (path : String) {segment : String} (h : '.' ∉ segment.toList) :
    p.lookup? (path ++ "." ++ segment) = (p.lookup? path).bind fun v => v.member? segment := by
  have hsplit : Text.split '.' (path ++ "." ++ segment) = Text.split '.' path ++ [segment] :=
    Text.split_snoc path h
  obtain ⟨first, rest, heq⟩ := exists_split path
  rw [lookup?, lookup?, hsplit, heq, List.cons_append, lookupSegments?_cons, lookupSegments?_cons,
    Option.bind_assoc]
  simp only [Json.walk?_snoc]

theorem member?_toJson_renderable (p : Page) :
    p.toJson.member? "renderable" = p.renderable.map Node.toJson := by
  have hfield : p.toJson.member? "renderable" = p.toJson.field? "renderable" := rfl
  rw [hfield, toJson, Json.field?_record (by simp [Entries.keys])]
  exact Option.bind_id_eq_join

/-- The parts of a page are the fields of its value, except for a content that is not there. -/
theorem member?_toJson (p : Page) {segment : String}
    (h : segment = "renderable" → p.renderable.isSome = true) :
    p.toJson.member? segment = p.root? segment := by
  have hfield : p.toJson.member? segment = p.toJson.field? segment := rfl
  rw [hfield, toJson, Json.field?_record (by simp [Entries.keys])]
  unfold root?
  split
  · rfl
  · rfl
  · rfl
  · rfl
  · rfl
  · rfl
  · obtain ⟨n, hn⟩ := Option.isSome_iff_exists.mp (h rfl)
    rw [hn]
    rfl
  · rename_i htitle hurl hfrontmatter hpages hheadings hregions hrenderable
    rw [List.lookup_eq_none_iff.mpr]
    · rfl
    · simpa using ⟨hrenderable, hregions, htitle, hurl, hpages, hfrontmatter, hheadings⟩

theorem lookup?_eq_walk? (p : Page) {path : String}
    (h : path = "renderable" → p.renderable.isSome = true) :
    p.lookup? path = p.toJson.walk? (Text.split '.' path) := by
  obtain ⟨first, rest, hsplit⟩ := exists_split path
  rw [lookup?, hsplit, lookupSegments?_cons, Json.walk?_cons]
  by_cases hfirst : first = "renderable" → p.renderable.isSome = true
  · rw [p.member?_toJson hfirst]
  · -- nothing is reached from a content that is not there
    obtain ⟨rfl, hnone⟩ := Classical.not_imp.mp hfirst
    rw [Option.not_isSome_iff_eq_none] at hnone
    rw [member?_toJson_renderable, hnone]
    cases rest with
    | nil => exact absurd (fun _ => h (Text.eq_of_split_eq_singleton hsplit)) hfirst
    | cons segment rest =>
      rw [root?, hnone]
      rfl

end Page

/--
Looking up a path in a page is one uniform walk. A path with one segment more names what the segment
leads to from the value that the path names, so a field of an object, an item of an array or the
length of a text, and nothing else. For a page with content, a path names what is reached along its
segments from the value of the whole page. Without content this holds of each path but `renderable`.
-/
theorem Page.lookup_uniform (p : Page) :
    (∀ path segment, '.' ∉ segment.toList → ∀ w, p.lookup? (path ++ "." ++ segment) = some w ↔
      ∃ v, p.lookup? path = some v ∧ v.Leads segment w) ∧
    ∀ path, (path = "renderable" → p.renderable.isSome = true) → ∀ w,
      p.lookup? path = some w ↔ p.toJson.Reaches (Text.split '.' path) w := by
  constructor
  · intro path segment hsegment w
    simp only [p.lookup?_snoc path hsegment, Option.bind_eq_some_iff, Json.member?_eq_some_iff]
  · intro path hpath w
    rw [p.lookup?_eq_walk? hpath, Json.walk?_eq_some_iff]

/-- Two tags. -/
def tagList : Json := .arr [.str "lean", .str "proof"]

/-- A page with content and tags. -/
def taggedPage : Page where
  renderable := some (.text "a")
  frontmatter := .ofList [("tags", tagList)]

/-- The second tag is one step behind the tags, and its length is reached from the whole page. -/
theorem Page.lookup_uniform_tagged :
    '.' ∉ "+1".toList ∧ taggedPage.lookup? "frontmatter.tags" = some tagList ∧
    taggedPage.lookup? ("frontmatter.tags" ++ "." ++ "+1") = some (.str "proof") ∧
    tagList.Leads "+1" (.str "proof") ∧
    taggedPage.renderable.isSome = true ∧
    taggedPage.lookup? "frontmatter.tags.+1.length" = some (Json.ofNat 5) ∧
    taggedPage.toJson.Reaches ["frontmatter", "tags", "+1", "length"] (Json.ofNat 5) := by
  obtain ⟨hstep, hwalk⟩ := taggedPage.lookup_uniform
  have hplain : '.' ∉ "+1".toList := by decide
  have htags : taggedPage.lookup? "frontmatter.tags" = some tagList := rfl
  have hsecond : taggedPage.lookup? ("frontmatter.tags" ++ "." ++ "+1") = some (.str "proof") :=
    rfl
  have hlength : taggedPage.lookup? "frontmatter.tags.+1.length" = some (Json.ofNat 5) := rfl
  have hsplit : Text.split '.' "frontmatter.tags.+1.length" =
      ["frontmatter", "tags", "+1", "length"] := rfl
  obtain ⟨v, hv, hleads⟩ := (hstep "frontmatter.tags" "+1" hplain (.str "proof")).mp hsecond
  obtain rfl := Option.some.inj (htags.symm.trans hv)
  exact ⟨hplain, htags, hsecond, hleads, rfl, hlength,
    hsplit ▸ (hwalk "frontmatter.tags.+1.length" (fun _ => rfl) (Json.ofNat 5)).mp hlength⟩

end Livery
