import Livery.Layout.Fragment

/-!
# What fragments are built from

A fragment has its like among its children. `Chrome.entries` lists a fragment with all fragments
nested in it, and `Chrome.induct` is the induction that follows them. `Chrome.build_eq` says all
that building one fragment does : its content comes from one of four places (`Chrome.content`), and
only its own markup is marked as markup.
-/

namespace Livery

open Text (nonEmpty?)

namespace Chrome

/-- Induction on fragments : a fragment is reached from the fragments among its children. -/
theorem induct {motive : Chrome → Prop}
    (h : ∀ c : Chrome, (∀ x, .entry x ∈ c.children → motive x) → motive c) (c : Chrome) :
    motive c := by
  refine @Chrome.rec motive (fun c => ∀ x, c = .entry x → motive x)
    (fun l => ∀ x, .entry x ∈ l → motive x) ?_ ?_ ?_ ?_ ?_ c
  · intro tag label attrs markup pageText pageCondition condition dateFormat textPrefix textSuffix
      iteration children ih
    exact h _ ih
  · rintro s x hx
    cases hx
  · rintro x hx y hy
    cases hy
    exact hx
  · intro x hx
    simp at hx
  · intro c rest hc hrest x hx
    rcases List.mem_cons.mp hx with hx | hx
    · exact hc x hx.symm
    · exact hrest x hx

/-! ## Nested fragments -/

mutual

/-- A fragment and all fragments nested in it. -/
def entries : Chrome → List Chrome
  | c@⟨_, _, _, _, _, _, _, _, _, _, _, children⟩ => c :: entriesAll children

/-- The fragments among some children and all fragments nested in these. -/
def entriesAll : List ChromeChild → List Chrome
  | [] => []
  | .text _ :: rest => entriesAll rest
  | .entry c :: rest => entries c ++ entriesAll rest

end

theorem entries_eq (c : Chrome) : c.entries = c :: entriesAll c.children := by
  cases c
  rw [entries]

theorem mem_entries_self (c : Chrome) : c ∈ c.entries := by
  rw [entries_eq]
  exact List.mem_cons_self

theorem entries_subset_entriesAll {x : Chrome} :
    ∀ {l : List ChromeChild}, .entry x ∈ l → x.entries ⊆ entriesAll l
  | [], h => by simp at h
  | .text _ :: rest, h => by
    rw [entriesAll]
    exact entries_subset_entriesAll (by simpa using h)
  | .entry c :: rest, h => by
    rw [entriesAll]
    rcases List.mem_cons.mp h with heq | h
    · cases heq
      exact List.subset_append_left _ _
    · exact List.subset_append_of_subset_right _ (entries_subset_entriesAll h)

/-- What is nested in a child is nested in the fragment. -/
theorem entries_subset {c x : Chrome} (h : .entry x ∈ c.children) : x.entries ⊆ c.entries := by
  rw [c.entries_eq]
  exact List.subset_cons_of_subset _ (entries_subset_entriesAll h)

/-! ## Building a fragment -/

/-- Where the content of a fragment comes from. -/
inductive Content
  /-- From markup of its own. -/
  | markup (text : String)
  /-- From a text of the page. -/
  | pageText (path : String)
  /-- From the items of an array of the page. -/
  | iteration (i : Iteration)
  | children

/-- Where the content of a fragment comes from : an earlier way hides the later ones. -/
def content (c : Chrome) : Content :=
  match nonEmpty? c.markup, nonEmpty? c.pageText, c.iteration with
  | some text, _, _ => .markup text
  | none, some path, _ => .pageText path
  | none, none, some i => .iteration i
  | none, none, none => .children

/-- The nodes of a child of a fragment. -/
def childNodes (page : Page) : ChromeChild → List Node
  | .text s => [.text s]
  | .entry c => ((c.build page (c.label.getD "")).map .element).toList

theorem buildAll_eq (page : Page) :
    ∀ l : List ChromeChild, buildAll page l = l.flatMap (childNodes page)
  | [] => rfl
  | .text _ :: rest => by rw [buildAll, buildAll_eq page rest]; rfl
  | .entry _ :: rest => by rw [buildAll, buildAll_eq page rest]; rfl

/-- The nodes inside of a fragment. -/
def contentNodes (c : Chrome) (page : Page) : List Node :=
  match c.content with
  | .markup text => [.text text]
  | .pageText path => [.text (c.shownText (page.lookupText path))]
  | .iteration i => iterated i page
  | .children => c.children.flatMap (childNodes page)

/-- The attributes of the element of a fragment, with the mark if its content is markup. -/
def markedAttrs (c : Chrome) (name : String) (page : Page) : Attrs :=
  match c.content with
  | .markup _ => (c.builtAttrs name page).insert rawMarkupKey "true"
  | _ => c.builtAttrs name page

/-- Building a fragment. -/
theorem build_eq (c : Chrome) (page : Page) (name : String) :
    c.build page name =
      if c.admits page then some ⟨c.tag, c.markedAttrs name page, c.contentNodes page⟩
      else none := by
  obtain ⟨tag, label, attrs, markup, pageText, pageCondition, condition, dateFormat, textPrefix,
    textSuffix, iteration, children⟩ := c
  rw [build, buildAll_eq]
  congr 1
  rw [markedAttrs, contentNodes, content]
  cases hmarkup : nonEmpty? markup with
  | some text => rfl
  | none =>
    cases hpath : nonEmpty? pageText with
    | some path => rfl
    | none => cases iteration <;> rfl

end Chrome

end Livery
