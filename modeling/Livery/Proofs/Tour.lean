import Livery.Proofs.Agreement
import Livery.Proofs.Spans
import Livery.Site

/-!
# The tour of a dressing

Going around a document, a component is met twice : where it begins and where it ends.
`Theme.tour` lists these places in document order, as the events of scopes. Dressing a document
opens a scope for each component that it rewrites (`Theme.walkRecorded`), and these scopes record
exactly the tour of the document as it was handed over (`Theme.records_scopes`) : labels, content
wrappers and element classes bring in no components and hide none (`Theme.tour_prepared`), and
neither do synthesized elements if no entry sets a type. So no component is left out and none is
rewritten twice. A page has each of its nodes dressed once (`Page.forall₂_nodes`), and so records
their tours in a row.
-/

namespace Livery

/-! ## What steps record -/

/-- Running some steps while recording is on adds these events, and leaves recording on. -/
def Records (steps : List Action) (events : List TraceEvent) : Prop :=
  ∀ before, (⟨true, before⟩ : Recorder).runAll steps = ⟨true, before ++ events⟩

namespace Records

theorem nil : Records [] [] := fun before => by rw [Recorder.runAll, List.append_nil]

theorem append {steps steps' : List Action} {events events' : List TraceEvent}
    (h : Records steps events) (h' : Records steps' events') :
    Records (steps ++ steps') (events ++ events') := by
  intro before
  rw [Recorder.runAll_append, h, h', List.append_assoc]

theorem flatMap {α : Type} {f : α → List Action} {g : α → List TraceEvent} :
    ∀ {l : List α}, (∀ a ∈ l, Records (f a) (g a)) → Records (l.flatMap f) (l.flatMap g)
  | [], _ => nil
  | a :: l, h => by
    rw [List.flatMap_cons, List.flatMap_cons]
    exact (h a List.mem_cons_self).append (flatMap fun b hb => h b (List.mem_cons_of_mem _ hb))

/-- A scope adds its own events around those of its steps. -/
theorem scope {steps : List Action} {events : List TraceEvent} (h : Records steps events)
    (label : ScopeLabel) : Records [.scope label steps] (label.around events) := by
  intro before
  rw [Recorder.runAll, Recorder.runAll, Recorder.run, Recorder.opened, if_pos rfl, Recorder.push,
    h, Recorder.closed, if_pos rfl, Recorder.push, ScopeLabel.around]
  simp

/-- One scope after another. -/
theorem map {α : Type} {f : α → Action} {g : α → List TraceEvent} {l : List α}
    (h : ∀ a ∈ l, Records [f a] (g a)) : Records (l.map f) (l.flatMap g) := by
  rw [List.map_eq_flatMap]
  exact flatMap h

end Records

/-- The detail of a scope that opens. -/
def TraceEvent.opening? (e : TraceEvent) : Option String :=
  if e.phase = .opens then e.label.detail else none

namespace Theme

variable {t : Theme}

/-! ## The tour of a document -/

/-- The scope of rewriting a component. -/
def componentLabel (type : String) : ScopeLabel := ⟨"rune", some type⟩

mutual

/-- The events of the components at and below a node : each begins in front of those below it, and
ends behind them. -/
def tour (t : Theme) : Node → List TraceEvent
  | .array nodes => tourAll t nodes
  | .element ⟨name, attrs, children⟩ =>
    match t.runeOf? ⟨name, attrs, children⟩ with
    | some (type, _) => (componentLabel type).around (tourAll t children)
    | none => tourAll t children
  | _ => []

/-- The tours of the nodes of a list, one after another. -/
def tourAll (t : Theme) : List Node → List TraceEvent
  | [] => []
  | n :: rest => tour t n ++ tourAll t rest

end

theorem tourAll_eq (t : Theme) : ∀ l : List Node, t.tourAll l = l.flatMap t.tour
  | [] => by simp [tourAll]
  | n :: rest => by simp [tourAll, tourAll_eq t rest]

theorem tour_leaf {n : Node} (h : n.isBranch = false) : t.tour n = [] := by
  cases n <;> simp_all [tour, Node.isBranch]

theorem tour_array (nodes : List Node) : t.tour (.array nodes) = nodes.flatMap t.tour := by
  rw [tour, tourAll_eq]

theorem tour_component {e : Element} {type : String} {r : Rune}
    (h : t.runeOf? e = some (type, r)) :
    t.tour (.element e) = (componentLabel type).around (e.children.flatMap t.tour) := by
  obtain ⟨name, attrs, children⟩ := e
  rw [tour, h, tourAll_eq]

theorem tour_plain {e : Element} (h : t.runeOf? e = none) :
    t.tour (.element e) = e.children.flatMap t.tour := by
  obtain ⟨name, attrs, children⟩ := e
  rw [tour, h, tourAll_eq]

/-- An element of the same type with the same tours below it has the same tour. -/
theorem tour_congr {e x : Element} (htype : x.typeOf? = e.typeOf?)
    (hbelow : x.children.flatMap t.tour = e.children.flatMap t.tour) :
    t.tour (.element x) = t.tour (.element e) := by
  have hrune : t.runeOf? x = t.runeOf? e := runeOf?_congr htype
  rcases t.runeOf?_cases e with he | ⟨type, r, he⟩
  · rw [tour_plain he, tour_plain (hrune.trans he), hbelow]
  · rw [tour_component he, tour_component (hrune.trans he), hbelow]

theorem bracketed_tour (n : Node) : Bracketed (t.tour n) := by
  induction n using Node.induct with
  | leaf n hn =>
    rw [tour_leaf hn]
    exact .nil
  | array nodes ih =>
    rw [tour_array]
    exact .flatMap ih
  | element e ih =>
    rcases t.runeOf?_cases e with he | ⟨type, r, he⟩
    · rw [tour_plain he]
      exact .flatMap ih
    · rw [tour_component he]
      exact (Bracketed.flatMap ih).around _

/-- A tour begins each element of a declared type once, in document order. -/
theorem openings_tour (n : Node) :
    (t.tour n).filterMap TraceEvent.opening? =
      n.elements.filterMap fun e => (t.runeOf? e).map Prod.fst := by
  induction n using Node.induct with
  | leaf n hn => rw [tour_leaf hn, Node.elements_leaf hn]; rfl
  | array nodes ih =>
    rw [tour_array, Node.elements_array, List.filterMap_flatMap, List.filterMap_flatMap]
    exact List.flatMap_congr ih
  | element e ih =>
    have hbelow : (e.children.flatMap t.tour).filterMap TraceEvent.opening? =
        (e.children.flatMap Node.elements).filterMap fun e => (t.runeOf? e).map Prod.fst := by
      rw [List.filterMap_flatMap, List.filterMap_flatMap]
      exact List.flatMap_congr ih
    rw [Node.elements_element, List.filterMap_cons]
    rcases t.runeOf?_cases e with he | ⟨type, r, he⟩
    · rw [tour_plain he, he, hbelow]
      rfl
    · rw [tour_component he, he, ← hbelow]
      simp [ScopeLabel.around, componentLabel, TraceEvent.opening?]

/-! ## What is walked below a component -/

theorem tour_labelled (r : Rune) (n : Node) : t.tour (r.labelled n) = t.tour n := by
  cases n with
  | element e =>
    rw [r.labelled_element]
    exact tour_congr (r.typeOf?_relabelled e) (by rw [r.children_relabelled])
  | _ => rw [r.labelled_of_not_element rfl]

/-- The content wrapper is no component. -/
theorem tour_wrapped (r : Rune) (l : List Node) :
    (r.wrapped l).flatMap t.tour = l.flatMap t.tour := by
  refine r.flatMap_wrapped (fun w l => ?_) l
  rw [tour_plain (isComponent_eq_false_iff.mp (isComponent_around t w l)), w.children_around]

theorem tour_marked (block : String) (n : Node) : t.tour (t.marked block n) = t.tour n := by
  refine marked_induct block (motive := fun n m => t.tour m = t.tour n) (fun _ => rfl) ?_ n
  intro e value _ ih
  refine tour_congr (e.typeOf?_classed value _) ?_
  rw [List.flatMap_map]
  exact List.flatMap_congr ih

/-- Where no element has a type there is no component. -/
theorem tour_eq_nil {n : Node} (h : n.types = []) : t.tour n = [] := by
  induction n using Node.induct with
  | leaf n hn => exact tour_leaf hn
  | array nodes ih =>
    rw [Node.types_array, List.flatMap_eq_nil_iff] at h
    rw [tour_array, List.flatMap_eq_nil_iff]
    exact fun m hm => ih m hm (h m hm)
  | element e ih =>
    rw [Node.types_element, List.append_eq_nil_iff, List.flatMap_eq_nil_iff] at h
    have htype : e.typeOf? = none := by simpa using h.1
    have hrune : t.runeOf? e = none := by rw [runeOf?, htype, Option.bind_none]
    rw [tour_plain hrune, List.flatMap_eq_nil_iff]
    exact fun m hm => ih m hm (h.2 m hm)

/-- What is walked below a component has the components that are below it. -/
theorem tour_prepared {r : Rune} (hr : r.Untyped) (e : Element) :
    (t.prepared r e).flatMap t.tour = e.children.flatMap t.tour := by
  have hsynthesized (before : Bool) :
      (r.synthesized (r.resolve e) before).flatMap t.tour = [] :=
    List.flatMap_eq_nil_iff.mpr fun n hn => tour_eq_nil (hr.types_synthesized hn)
  rw [prepared, ← Rune.arranged, List.flatMap_map]
  simp only [tour_marked]
  rw [Rune.arranged, List.flatMap_append, List.flatMap_append, hsynthesized, hsynthesized,
    tour_wrapped, List.flatMap_map, List.nil_append, List.append_nil]
  simp only [tour_labelled]

/-! ## The scopes of a walk -/

theorem scopes_component {e : Element} {type : String} {r : Rune}
    (h : t.runeOf? e = some (type, r)) (d : ℕ) :
    t.scopes (d + 1) (.element e) =
      [.scope (componentLabel type) ((t.prepared r e).flatMap (t.scopes d))] := by
  rw [scopes, h, componentLabel]

theorem scopes_plain {e : Element} (h : t.runeOf? e = none) (d : ℕ) :
    t.scopes (d + 1) (.element e) = e.children.flatMap (t.scopes d) := by
  rw [scopes, h]

/-- The dressed form of a node together with the scopes that are opened on the way to it : rewriting
a component opens one scope, around all that is walked below it. -/
def walkRecorded (t : Theme) : ℕ → Option String → Node → Option (Node × List Action)
  | 0, _, _ => none
  | d + 1, parent, .array nodes =>
    (nodes.mapM (walkRecorded t d parent)).map fun l =>
      (.array (l.map Prod.fst), l.flatMap Prod.snd)
  | d + 1, parent, .element e =>
    match t.runeOf? e with
    | some (type, r) =>
      ((t.prepared r e).mapM (walkRecorded t d (some type))).map fun l =>
        (.element (t.dressed type r parent e (l.map Prod.fst)),
          [.scope (componentLabel type) (l.flatMap Prod.snd)])
    | none =>
      (e.children.mapM (walkRecorded t d parent)).map fun l =>
        (.element { e with children := l.map Prod.fst }, l.flatMap Prod.snd)
  | _ + 1, _, n => some (n, [])

/-- Results in a row with what is recorded for each of them. -/
theorem mapM_recorded {f : Node → Option (Node × List Action)} {g : Node → Option Node}
    {s : Node → List Action} (hf : ∀ n, f n = (g n).map fun out => (out, s n)) (l : List Node) :
    (l.mapM f).map (fun r => (r.map Prod.fst, r.flatMap Prod.snd)) =
      (l.mapM g).map fun outs => (outs, l.flatMap s) := by
  induction l with
  | nil => rfl
  | cons n rest ih =>
    rw [List.mapM_cons, List.mapM_cons, hf]
    cases hg : g n with
    | none => rfl
    | some out =>
      cases hrest : rest.mapM f with
      | none =>
        rw [hrest, Option.map_none, eq_comm, Option.map_eq_none_iff] at ih
        rw [ih]
        rfl
      | some r =>
        rw [hrest, Option.map_some, eq_comm, Option.map_eq_some_iff] at ih
        obtain ⟨outs, houts, hr⟩ := ih
        obtain ⟨rfl, hs⟩ := Prod.mk.inj hr
        rw [houts]
        simp [hs]

/-- The same with what is made of the results, and of the record. -/
theorem mapM_recorded_map {f : Node → Option (Node × List Action)} {g : Node → Option Node}
    {s : Node → List Action} (hf : ∀ n, f n = (g n).map fun out => (out, s n)) (l : List Node)
    (make : List Node → Node) (around : List Action → List Action) :
    (l.mapM f).map (fun r => (make (r.map Prod.fst), around (r.flatMap Prod.snd))) =
      ((l.mapM g).map make).map fun out => (out, around (l.flatMap s)) := by
  have h := congrArg (Option.map fun p => (make p.1, around p.2)) (mapM_recorded hf l)
  simpa only [Option.map_map, Function.comp_def] using h

/-- The walk that records its scopes is the walk. -/
theorem walkRecorded_eq : ∀ (d : ℕ) (within : Option String) (n : Node),
    t.walkRecorded d within n = (t.walk d within n).map fun out => (out, t.scopes d n)
  | 0, _, _ => rfl
  | d + 1, within, n => by
    have below (parent : Option String) := mapM_recorded_map (walkRecorded_eq d parent)
    cases n with
    | array nodes =>
      rw [walk_array, walkRecorded, scopes]
      exact below within nodes .array id
    | element e =>
      rcases t.runeOf?_cases e with he | ⟨type, r, he⟩
      · rw [walk_plain he, scopes_plain he, walkRecorded, he]
        exact below within e.children (fun l => .element { e with children := l }) id
      · rw [walk_component he, scopes_component he, walkRecorded, he]
        exact below (some type) (t.prepared r e) (fun l => .element (t.dressed type r within e l))
          fun l => [.scope (componentLabel type) l]
    | _ => rfl

/-- The scopes of a walk that ends record the tour of the document. -/
theorem records_scopes (ht : ∀ r ∈ t.runes.values, r.Untyped) : ∀ {d : ℕ} {n : Node},
    t.Ends d n → Records (t.scopes d n) (t.tour n)
  | 0, n, h => absurd h (not_ends_zero n)
  | d + 1, n, h => by
    cases n with
    | array nodes =>
      have hplain : t.Plain (.array nodes) := fun e he => by cases he
      rw [tour_array, scopes]
      exact Records.flatMap fun m hm => records_scopes ht (hplain.ends_iff.mp h m hm)
    | element e =>
      rcases t.runeOf?_cases e with he | ⟨type, r, he⟩
      · have hplain : t.Plain (.element e) := by
          rintro x hx
          cases hx
          exact isComponent_eq_false_iff.mpr he
        rw [tour_plain he, scopes_plain he]
        exact Records.flatMap fun m hm => records_scopes ht (hplain.ends_iff.mp h m hm)
      · have hr : r.Untyped := ht r (t.runes.mem_values_of_get? (get?_of_runeOf? he))
        -- Not the children are walked but what is prepared from them, with the same tour.
        rw [tour_component he, scopes_component he, ← tour_prepared hr e]
        exact (Records.flatMap fun m hm =>
          records_scopes ht ((ends_component he).mp h m hm)).scope _
    | _ => exact Records.nil

/-- The events of dressing a document. -/
def transformEvents (t : Theme) (n : Node) : List TraceEvent :=
  ScopeLabel.around ⟨"identity transform", none⟩ (t.tour n)

theorem records_transformScope (ht : ∀ r ∈ t.runes.values, r.Untyped) (n : Node) :
    Records [t.transformScope n] (t.transformEvents n) := by
  have hends : t.Ends (t.reach n) n := (ends_iff none).mpr (isSome_transform ht none n)
  exact (records_scopes ht hends).scope _

end Theme

/-! ## Pages -/

theorem Entries.forall₂_traverse {α β : Type} {f : α → Option β} {l : Entries α} {m : Entries β}
    (h : l.traverse f = some m) : List.Forall₂ (fun p q => f p.2 = some q.2) l m := by
  induction l generalizing m with
  | nil =>
    cases h
    exact .nil
  | cons p rest ih =>
    obtain ⟨w, hw, hrest⟩ := Option.bind_eq_some_iff.mp h
    obtain ⟨ws, hws, rfl⟩ := Option.map_eq_some_iff.mp hrest
    exact .cons hw (ih hws)

/-- Values that are replaced keep their order. -/
theorem Dict.forall₂_values {α β : Type} {f : α → Option β} {d : Dict α} {m : Dict β}
    (h : d.traverse f = some m) : List.Forall₂ (fun a b => f a = some b) d.values m.values := by
  rw [traverse] at h
  split at h
  · rename_i entries hentries
    obtain rfl := Option.some.inj h
    rw [values, values, List.forall₂_map_left_iff, List.forall₂_map_right_iff]
    exact Entries.forall₂_traverse hentries
  · cases h

/-- The nodes of a page that the theme dresses, in order : its content, then that of its regions. -/
def Page.nodes (page : Page) : List Node :=
  page.renderable.toList ++ page.regions.values.flatMap Region.content

/-- A dressed page has the dressed nodes of the page, each of them once. -/
theorem Page.forall₂_nodes {t : Theme} {page page' : Page} (h : page.dressed t = some page') :
    List.Forall₂ (fun n out => t.transform none n = some out) page.nodes page'.nodes := by
  obtain ⟨renderable, hrenderable, h⟩ := Option.bind_eq_some_iff.mp h
  obtain ⟨regions, hregions, h⟩ := Option.bind_eq_some_iff.mp h
  obtain rfl := Option.some.inj h
  refine List.rel_append ?_ (List.rel_flatMap (Dict.forall₂_values hregions) fun r r' hr => ?_)
  · cases hcontent : page.renderable with
    | none =>
      rw [hcontent] at hrenderable
      cases hrenderable
      exact .nil
    | some n =>
      rw [hcontent, Option.mapM_some, Option.map_eq_map, Option.map_eq_some_iff] at hrenderable
      obtain ⟨out, hout, rfl⟩ := hrenderable
      exact .cons hout .nil
  · obtain ⟨content, hcontent, rfl⟩ := Option.map_eq_some_iff.mp hr
    exact (mapM_eq_some_iff _ _ _).mp hcontent

/-- A page is dressed if every document is. -/
theorem Page.isSome_dressed_of_forall {t : Theme}
    (h : ∀ n, (t.transform none n).isSome = true) (page : Page) :
    (page.dressed t).isSome = true := by
  have hnodes (l : List Node) : (l.mapM (t.transform none)).isSome = true := by
    rw [isSome_mapM, List.all_eq_true]
    exact fun n _ => h n
  obtain ⟨renderable, hrenderable⟩ : ∃ out, page.renderable.mapM (t.transform none) = some out := by
    cases page.renderable with
    | none => exact ⟨none, rfl⟩
    | some n =>
      obtain ⟨out, hout⟩ := Option.isSome_iff_exists.mp (h n)
      exact ⟨some out, by simp [Option.mapM_some, hout]⟩
  obtain ⟨regions, hregions⟩ := Option.isSome_iff_exists.mp (Dict.isSome_traverse
    (f := fun r => (r.content.mapM (t.transform none)).map fun content => { r with content })
    (d := page.regions) fun p _ => by rw [Option.isSome_map]; exact hnodes p.2.content)
  simp [Page.dressed, hrenderable, hregions]

/-- The events of composing a page. -/
def composePageEvents (t : Theme) (l : Layout) (page : Page) : List TraceEvent :=
  ScopeLabel.around ⟨"compose page", none⟩
    (page.nodes.flatMap t.transformEvents ++
      ScopeLabel.around ⟨"layout transform", some l.block⟩ [])

theorem records_composePageScope {t : Theme} (ht : ∀ r ∈ t.runes.values, r.Untyped) (l : Layout)
    (page : Page) : Records [composePageScope t l page] (composePageEvents t l page) := by
  have hnodes : Records (page.nodes.map t.transformScope)
      (page.nodes.flatMap t.transformEvents) :=
    Records.map fun n _ => Theme.records_transformScope ht n
  have hlayout : Records [l.composeScope]
      (ScopeLabel.around ⟨"layout transform", some l.block⟩ []) := Records.nil.scope _
  rw [Page.nodes, List.map_append, List.map_flatMap] at hnodes
  rw [composePageScope, composePageEvents]
  exact (hnodes.append hlayout).scope _

theorem Records.run_eq {a : Action} {events : List TraceEvent} (h : Records [a] events)
    (before : List TraceEvent) : (⟨true, before⟩ : Recorder).run a = ⟨true, before ++ events⟩ :=
  h before

/--
Every component is rewritten once. If no entry of a theme sets a type, then each document is
dressed, and the walk that dresses it opens the scopes of `Theme.transformScope`, which record the
tour of the document inside one scope of their own : a begin and an end for each element of a
declared type, nested and ordered as in the document. Composing a page dresses its content and each
node of its regions once and hands these to the layout. It records one such tour for each of them
in order, and then the layout, whatever the layout places.
-/
theorem components_recorded_once {t : Theme} (ht : ∀ r ∈ t.runes.values, r.Untyped) :
    (∀ within n before,
      (∃ out steps, t.walkRecorded (t.reach n) within n = some (out, steps) ∧
        t.transform within n = some out ∧
        t.transformScope n = .scope ⟨"identity transform", none⟩ steps) ∧
      (⟨true, before⟩ : Recorder).run (t.transformScope n) =
        ⟨true, before ++ ScopeLabel.around ⟨"identity transform", none⟩ (t.tour n)⟩ ∧
      Bracketed (t.tour n) ∧
      (t.tour n).filterMap TraceEvent.opening? =
        n.elements.filterMap fun e => (t.runeOf? e).map Prod.fst) ∧
    ∀ l page before,
      (∃ page', page.dressed t = some page' ∧
        composePage t l page = some (l.compose page' t.classPrefix) ∧
        List.Forall₂ (fun n out => t.transform none n = some out) page.nodes page'.nodes) ∧
      (⟨true, before⟩ : Recorder).run (composePageScope t l page) =
        ⟨true, before ++ composePageEvents t l page⟩ := by
  refine ⟨fun within n before => ⟨?_, ?_, Theme.bracketed_tour n, Theme.openings_tour n⟩,
    fun l page before => ⟨?_, ?_⟩⟩
  · obtain ⟨out, hout⟩ := Option.isSome_iff_exists.mp (Theme.isSome_transform ht within n)
    refine ⟨out, t.scopes (t.reach n) n, ?_, hout, rfl⟩
    rw [Theme.transform] at hout
    rw [Theme.walkRecorded_eq, hout, Option.map_some]
  · exact (Theme.records_transformScope ht n).run_eq before
  · obtain ⟨page', hpage⟩ := Option.isSome_iff_exists.mp <|
      Page.isSome_dressed_of_forall (Theme.isSome_transform ht none) page
    exact ⟨page', hpage, by rw [composePage, hpage, Option.map_some], Page.forall₂_nodes hpage⟩
  · exact (records_composePageScope ht l page).run_eq before

/-- A page with two notes in a hint, and a note in a region. -/
def notedPage : Page where
  renderable := some (.element (hint [.element (note none), .text "a", .element (note none)]))
  regions := .ofList [("side", { content := [.text "b", .element (note none)] })]

/-- The hint is recorded around its notes, and the text of the region is a tour of its own. -/
theorem components_recorded_once_notes :
    (∀ r ∈ hintTheme.runes.values, r.Untyped) ∧
    ((⟨true, []⟩ : Recorder).run (composePageScope hintTheme default notedPage)).events =
      ScopeLabel.around ⟨"compose page", none⟩
        (ScopeLabel.around ⟨"identity transform", none⟩
            (ScopeLabel.around ⟨"rune", some "Hint"⟩
              (ScopeLabel.around ⟨"rune", some "Note"⟩ [] ++
                ScopeLabel.around ⟨"rune", some "Note"⟩ [])) ++
          ScopeLabel.around ⟨"identity transform", none⟩ [] ++
          ScopeLabel.around ⟨"identity transform", none⟩
            (ScopeLabel.around ⟨"rune", some "Note"⟩ []) ++
          ScopeLabel.around ⟨"layout transform", some (default : Layout).block⟩ []) := by
  have ht : ∀ r ∈ hintTheme.runes.values, r.Untyped := by
    intro r hr p hp
    have hempty : ∀ r ∈ hintTheme.runes.values, r.scaffold.entries = [] := by decide
    rw [hempty r hr] at hp
    cases hp
  refine ⟨ht, ?_⟩
  rw [((components_recorded_once ht).2 default notedPage []).2]
  cbv

end Livery
