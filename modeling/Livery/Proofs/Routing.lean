import Livery.Check.Manifest
import Livery.Manifest.Coding
import Livery.Proofs.Expressions
import Livery.Proofs.Shapes
import Livery.Proofs.Warnings

/-!
# Routing

The first rule whose pattern matches a URL gives the page its layout, and a page that no rule
matches has the layout `default` (`RouteRule.layoutOf_eq_iff`). What a rule matches is said without
the procedure that decides it : the URL without a slash in front falls into pieces for the tokens
that the pattern spells (`RouteRule.Fits`), and these are the URLs that the regular expression of
the pattern matches (`RouteRule.accepts_iff_isMatch`).

`Manifest.reports` says that the check of a manifest warns about exactly those rules whose layout is
not declared. So a manifest without warnings routes to declared layouts
(`Manifest.layoutOf_declared`).
-/

namespace Livery

namespace RouteRule

/-! ## What rules match -/

/-- The pattern of a rule is spelled by tokens, and the path falls into pieces for these. -/
def Fits (r : RouteRule) (path : String) : Prop :=
  ∃ g pieces, Glob.Spells g r.pattern.toList ∧ List.Forall₂ GlobToken.Matches g pieces ∧
    pieces.flatten = path.toList

theorem accepts_iff_fits {r : RouteRule} {path : String} : r.accepts path = true ↔ r.Fits path := by
  rw [accepts, Glob.accepts_iff, Glob.Matches, Fits]
  constructor
  · rintro ⟨pieces, hpieces⟩
    exact ⟨_, pieces, Glob.spells_iff.mpr rfl, hpieces⟩
  · rintro ⟨g, pieces, hg, hpieces⟩
    obtain rfl := Glob.spells_iff.mp hg
    exact ⟨pieces, hpieces⟩

/-- A rule accepts the paths that the expression of its pattern matches. -/
theorem accepts_iff_isMatch {r : RouteRule} {path : String} :
    r.accepts path = true ↔ (Glob.ofText r.pattern).expression.IsMatch path := by
  rw [accepts, Glob.accepts_iff, Glob.isMatch_expression_iff]

/-- A path is a URL without a slash in front. -/
def PathOf (url path : String) : Prop := url = "/" ++ path ∨ url = path ∧ ∀ rest, url ≠ "/" ++ rest

theorem pathOf_iff {url path : String} :
    PathOf url path ↔ (Text.behind? "/" url).getD url = path := by
  cases h : Text.behind? "/" url with
  | none =>
    have hslash : ∀ rest, url ≠ "/" ++ rest := by
      rintro rest rfl
      rw [Text.behind?_append] at h
      cases h
    simp [PathOf, hslash]
  | some rest =>
    obtain rfl := Text.eq_append_of_behind? h
    constructor
    · rintro (hpath | ⟨-, hslash⟩)
      · exact String.append_right_inj "/" |>.mp hpath
      · exact absurd rfl (hslash rest)
    · rintro rfl
      exact Or.inl rfl

/-! ## The layout of a page -/

/-- A rule is the first one of a list that fits a path. -/
def First (rules : List RouteRule) (path : String) (r : RouteRule) : Prop :=
  ∃ before after, rules = before ++ r :: after ∧ (∀ q ∈ before, ¬q.Fits path) ∧ r.Fits path

theorem find?_eq_some_iff_first {rules : List RouteRule} {path : String} {r : RouteRule} :
    (rules.find? fun q => q.accepts path) = some r ↔ First rules path r := by
  rw [List.find?_eq_some_iff_append, First]
  simp only [Bool.not_eq_true', ← Bool.not_eq_true, accepts_iff_fits]
  constructor
  · rintro ⟨hr, before, after, hrules, hbefore⟩
    exact ⟨before, after, hrules, hbefore, hr⟩
  · rintro ⟨before, after, hrules, hbefore, hr⟩
    exact ⟨hr, before, after, hrules, hbefore⟩

theorem find?_eq_none_iff_fits {rules : List RouteRule} {path : String} :
    (rules.find? fun q => q.accepts path) = none ↔ ∀ r ∈ rules, ¬r.Fits path := by
  simp only [List.find?_eq_none, accepts_iff_fits]

/-- Either there is a first rule that fits the path of a URL, or there is none and the page has the
default layout. -/
theorem layoutOf_cases {url path : String} (hpath : PathOf url path) (rules : List RouteRule) :
    (∃ r, First rules path r ∧ layoutOf rules url = r.layout) ∨
      (∀ r ∈ rules, ¬r.Fits path) ∧ layoutOf rules url = "default" := by
  rw [layoutOf, pathOf_iff.mp hpath]
  cases hfind : rules.find? fun q => q.accepts path with
  | none => exact Or.inr ⟨find?_eq_none_iff_fits.mp hfind, rfl⟩
  | some r => exact Or.inl ⟨r, find?_eq_some_iff_first.mp hfind, rfl⟩

theorem First.unique {rules : List RouteRule} {path : String} {r r' : RouteRule}
    (h : First rules path r) (h' : First rules path r') : r = r' := by
  rw [← find?_eq_some_iff_first] at h h'
  exact Option.some.inj (h.symm.trans h')

theorem First.mem {rules : List RouteRule} {path : String} {r : RouteRule}
    (h : First rules path r) : r ∈ rules := by
  obtain ⟨before, after, rfl, -, -⟩ := h
  simp

theorem First.fits {rules : List RouteRule} {path : String} {r : RouteRule}
    (h : First rules path r) : r.Fits path := by
  obtain ⟨_, _, -, -, hr⟩ := h
  exact hr

/--
There is one expression that is written as the pattern of a rule is translated, and the rule accepts
the paths that it matches. These are the paths that fall into consecutive pieces for the tokens that
the pattern spells : a literal for its character, `*` for a text without slashes, and `**` for a
text without line breaks. The layout of a page is that of the first rule that fits its URL without a
slash in front, or `default` if there is no such rule.
-/
theorem layoutOf_eq_iff :
    (∀ (r : RouteRule) (path : String), ∃ e : Expression,
      (∀ e' : Expression, e'.written = Glob.translated r.pattern.toList ↔ e' = e) ∧
        (r.accepts path = true ↔ e.IsMatch path)) ∧
    (∀ (r : RouteRule) (path : String), r.accepts path = true ↔
      ∃ g pieces, Glob.Spells g r.pattern.toList ∧ List.Forall₂ GlobToken.Matches g pieces ∧
        pieces.flatten = path.toList) ∧
    ∀ (rules : List RouteRule) (url name : String), layoutOf rules url = name ↔
      ∃ path, PathOf url path ∧
        ((∃ r, First rules path r ∧ r.layout = name) ∨
          (∀ r ∈ rules, ¬r.Fits path) ∧ name = "default") := by
  refine ⟨fun r path => ⟨_, fun e' => Glob.written_eq_translated_iff, accepts_iff_isMatch⟩,
    fun r path => accepts_iff_fits, fun rules url name => ?_⟩
  have hpath : PathOf url ((Text.behind? "/" url).getD url) := pathOf_iff.mpr rfl
  have hcases := layoutOf_cases hpath rules
  constructor
  · rintro rfl
    refine ⟨_, hpath, hcases.imp ?_ id⟩
    rintro ⟨r, hr, hlayout⟩
    exact ⟨r, hr, hlayout.symm⟩
  · rintro ⟨path, hpath', hname⟩
    obtain rfl := pathOf_iff.mp hpath'
    rcases hcases with ⟨r, hr, hlayout⟩ | ⟨hnone, hlayout⟩
    · rcases hname with ⟨r', hr', rfl⟩ | ⟨hnone, -⟩
      · rw [hlayout, hr.unique hr']
      · exact absurd hr.fits (hnone r hr.mem)
    · rcases hname with ⟨r', hr', -⟩ | ⟨-, rfl⟩
      · exact absurd hr'.fits (hnone r' hr'.mem)
      · exact hlayout

-- A star does not leave its segment, and a slash between two stars stays.
example : layoutOf [⟨"docs/*", "page"⟩, ⟨"docs/**", "docs"⟩] "/docs/api/calls" = "docs" := by
  decide

example : layoutOf [⟨"docs/*", "page"⟩, ⟨"**/*", "docs"⟩] "/docs" = "default" := by decide

end RouteRule

/-! ## Declared layouts -/

namespace Manifest

/-- The layouts that the rules of a manifest mention, in order and each at its place. -/
def references (m : Manifest) : Mentions String :=
  Mentions.inside (.field "routeRules") <| m.routeRules.zipIdx.flatMap fun p =>
    Mentions.inside (.index p.2) (Mentions.inside (.field "layout") [([], p.1.layout)])

/-- A layout dangles if it is not among the declared ones ; where none is declared, any will do. -/
def dangles (m : Manifest) (name : String) : Bool :=
  !(m.layouts.isEmpty || m.layouts.contains name)

/-- A rule without errors is warned about if its layout dangles. -/
theorem reports_routeRule {m : Manifest} {v : Json} {r : RouteRule}
    (hvalid : Check.errorFree (Check.routeRule m.layouts.keys v) = true)
    (h : RouteRule.ofJson? v = some r) :
    Reports m.dangles (fun name d => d = .layout name)
      (Check.warned (Check.routeRule m.layouts.keys v))
      (Mentions.inside (.field "layout") [([], r.layout)]) := by
  cases v with
  | obj fields =>
    simp only [RouteRule.ofJson?, Json.decodeRecord_obj, Option.bind_eq_bind,
      Option.bind_eq_some_iff, Option.some.injEq] at h
    obtain ⟨pattern, -, layout, hlayout, rfl⟩ := h
    have hlookup := Json.lookup_of_required_text hlayout
    rw [Check.routeRule, Check.object, Check.errorFree_append, Bool.and_eq_true,
      Check.errorFree_field, hlookup, Check.routeLayout] at hvalid
    -- An empty name is an error and no warning.
    have hne : layout ≠ "" := by
      rintro rfl
      cases hvalid.2
    have hdangles : m.dangles layout =
        !(m.layouts.keys.isEmpty || m.layouts.keys.contains layout) := by
      rw [dangles, Dict.contains_keys, Dict.keys, Entries.keys, List.isEmpty_map, Dict.isEmpty]
    rw [Check.routeRule, Check.object, Check.warned_append, Check.warned_requiredText,
      List.nil_append, Check.warned_field, hlookup, Check.routeLayout, if_neg hne]
    exact .inside _ (.reference _ hdangles fun _ => rfl)
  | _ => cases hvalid

/-- The layouts and the rules of a manifest are those of the fields that it is read from. -/
theorem ofJson?_eq_some {fields : Entries Json} {m : Manifest}
    (h : Manifest.ofJson? (.obj fields) = some m) :
    Json.defaulted (Json.decodeDict LayoutDefinition.ofJson?) ∅ fields "layouts" =
        some m.layouts ∧
      Json.defaulted (Json.decodeList RouteRule.ofJson?) [] fields "routeRules" =
        some m.routeRules := by
  simp only [Manifest.ofJson?, Json.decodeRecord_obj, Option.bind_eq_bind,
    Option.bind_eq_some_iff, Option.some.injEq] at h
  obtain ⟨_, -, _, -, _, -, _, -, _, -, layouts, hlayouts, rules, hrules, _, -, _, -, _, -,
    rfl⟩ := h
  exact ⟨hlayouts, hrules⟩

theorem warned_layoutDefinition (v : Json) : Check.warned (Check.layoutDefinition v) = [] :=
  Check.warned_object (fun fields => by simp) v

theorem warned_componentDefinition (v : Json) : Check.warned (Check.componentDefinition v) = [] :=
  Check.warned_object (fun fields => by simp) v

/-- Only the rules of a manifest lead to warnings. -/
theorem warned_manifest (fields : Entries Json) :
    Check.warned (Check.manifest (.obj fields)) =
      Check.warned (Check.given fields "routeRules"
        (Check.array .array
          (Check.eachItem (Check.routeRule (Check.declared fields "layouts"))))) := by
  rw [Check.manifest, Check.object]
  simp [Check.warned_values warned_layoutDefinition, Check.warned_values warned_componentDefinition]

/-- The warnings about a manifest without errors are about its references that dangle. -/
theorem reports {v : Json} {m : Manifest} (hv : v.WellFormed)
    (hvalid : Check.errorFree (Check.manifest v) = true) (h : Manifest.ofJson? v = some m) :
    Reports m.dangles (fun name d => d = .layout name) (Check.warned (Check.manifest v))
      m.references := by
  cases v with
  | obj fields =>
    obtain ⟨hlayouts, hrules⟩ := ofJson?_eq_some h
    have hdeclared := Json.declared_eq_keys hv hlayouts
    rw [Check.manifest, Check.object, hdeclared] at hvalid
    simp only [Check.errorFree_append, Bool.and_eq_true] at hvalid
    have hrule := Check.errorFree_of_mem_array hvalid.1.2
    rw [warned_manifest, hdeclared]
    exact .list hrules fun l hl v hv r => reports_routeRule (hrule l hl v hv)
  | _ => cases hvalid

/-- The rules of a manifest without warnings have declared layouts, if there are any. -/
theorem contains_layout {v : Json} {m : Manifest} (hv : v.WellFormed)
    (hvalid : (Report.mk (Check.manifest v)).valid = true)
    (hnone : (Report.mk (Check.manifest v)).warnings = []) (h : Manifest.ofJson? v = some m)
    (hlayouts : m.layouts.isEmpty = false) {r : RouteRule} (hr : r ∈ m.routeRules) :
    m.layouts.contains r.layout = true := by
  rw [Check.valid_eq] at hvalid
  have hreports := reports hv hvalid h
  rw [Check.warnings_eq, List.map_eq_nil_iff] at hnone
  rw [hnone, Reports, List.forall₂_nil_left_iff, List.filter_eq_nil_iff] at hreports
  obtain ⟨i, hi⟩ := List.mem_iff_getElem?.mp hr
  have hmem : ([.field "routeRules", .index i, .field "layout"], r.layout) ∈ m.references := by
    simp only [references, Mentions.inside, List.mem_map, List.mem_flatMap]
    exact ⟨_, ⟨(r, i), List.mem_zipIdx_iff_getElem?.mpr hi, _, ⟨_, List.mem_singleton_self _, rfl⟩,
      rfl⟩, rfl⟩
  have hdeclared := hreports _ hmem
  simpa [dangles, hlayouts] using hdeclared

/--
A manifest without errors and warnings that declares a layout routes to declared layouts : a page
has the layout of a rule that fits its URL, and this layout is declared, or no rule fits the URL and
the page has the layout `default`.
-/
theorem layoutOf_declared {v : Json} {m : Manifest} (hv : v.WellFormed)
    (hvalid : (Report.mk (Check.manifest v)).valid = true)
    (hnone : (Report.mk (Check.manifest v)).warnings = []) (h : Manifest.ofJson? v = some m)
    (hlayouts : m.layouts.isEmpty = false) (url : String) :
    ∃ path, RouteRule.PathOf url path ∧
      ((∃ r ∈ m.routeRules, r.Fits path ∧ m.layoutOf url = r.layout ∧
          m.layouts.contains (m.layoutOf url) = true) ∨
        (∀ r ∈ m.routeRules, ¬r.Fits path) ∧ m.layoutOf url = "default") := by
  have hpath : RouteRule.PathOf url ((Text.behind? "/" url).getD url) :=
    RouteRule.pathOf_iff.mpr rfl
  refine ⟨_, hpath, (RouteRule.layoutOf_cases hpath m.routeRules).imp ?_ id⟩
  rintro ⟨r, hr, hlayout⟩
  have hdeclared := contains_layout hv hvalid hnone h hlayouts hr.mem
  exact ⟨r, hr.mem, hr.fits, hlayout, by rwa [layoutOf, hlayout]⟩

/-- A manifest that declares a layout and routes the documentation to it. -/
def docsManifest : Json := .obj
  [("name", .str "Plain"), ("version", .str "1.0.0"), ("target", .str "html"),
   ("designTokens", .str "tokens.css"),
   ("layouts", .obj [("docs", .obj [("component", .str "Docs"), ("regions", .arr [])])]),
   ("routeRules", .arr [.obj [("pattern", .str "docs/**"), ("layout", .str "docs")]])]

/-- What the manifest says. -/
def docs : Manifest where
  name := "Plain"
  version := "1.0.0"
  target := "html"
  designTokens := "tokens.css"
  layouts := Dict.ofList [("docs", { component := "Docs" })]
  routeRules := [⟨"docs/**", "docs"⟩]

theorem layoutOf_declared_docs :
    docsManifest.WellFormed ∧ (Report.mk (Check.manifest docsManifest)).valid = true ∧
    (Report.mk (Check.manifest docsManifest)).warnings = [] ∧
    Manifest.ofJson? docsManifest = some docs ∧ docs.layouts.isEmpty = false ∧
    docs.layoutOf "/docs/api/" = "docs" ∧ docs.layoutOf "/blog/" = "default" ∧
    ∃ path, RouteRule.PathOf "/docs/api/" path ∧
      ((∃ r ∈ docs.routeRules, r.Fits path ∧ docs.layoutOf "/docs/api/" = r.layout ∧
          docs.layouts.contains (docs.layoutOf "/docs/api/") = true) ∨
        (∀ r ∈ docs.routeRules, ¬r.Fits path) ∧ docs.layoutOf "/docs/api/" = "default") := by
  have hv : docsManifest.WellFormed := by
    simp [docsManifest, Json.WellFormed, Json.WellFormedFields, Json.WellFormedItems, Entries.keys]
  have hvalid : (Report.mk (Check.manifest docsManifest)).valid = true := by decide +kernel
  have hnone : (Report.mk (Check.manifest docsManifest)).warnings = [] := by decide +kernel
  have h : Manifest.ofJson? docsManifest = some docs := rfl
  exact ⟨hv, hvalid, hnone, h, rfl, by decide, by decide,
    layoutOf_declared hv hvalid hnone h rfl "/docs/api/"⟩

end Manifest

end Livery
