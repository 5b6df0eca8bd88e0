import Livery.Trace

/-!
# Scopes and their events

A run opens and closes scopes, and recording may be turned on and off at any place in it. A `Span`
is a scope of a run with the scopes inside it and with what was settled when it opened : whether
recording was on. `Action.spans` lists the spans of a run from its switches alone, and
`Recorder.events_runAll` says that a run which clears nothing adds the events of its spans, where a
span has both of its events or none.

So each end in the record is that of the scope opened last (`Bracketed`) wherever no scope is open.
The record is cleared only there, which is why steps inside scopes never meet a cleared record
(`Action.ClearsOutside`).
-/

namespace Livery

/-! ## Bracketed events -/

/-- The scopes that are open behind an event, the innermost one first. An end fits if it is the end
of the innermost scope. -/
def TraceEvent.after? (stack : List ScopeLabel) (e : TraceEvent) : Option (List ScopeLabel) :=
  match e.phase, stack with
  | .opens, stack => some (e.label :: stack)
  | .closes, label :: stack => if label = e.label then some stack else none
  | .closes, [] => none

/-- Every end fits, and no scope is left open. -/
def Bracketed (events : List TraceEvent) : Prop := events.foldlM TraceEvent.after? [] = some []

/-- The events of a scope around others. -/
def ScopeLabel.around (label : ScopeLabel) (events : List TraceEvent) : List TraceEvent :=
  ⟨.opens, label⟩ :: events ++ [⟨.closes, label⟩]

/-- Scopes that are open further out change nothing. -/
theorem TraceEvent.after?_append {stack stack' : List ScopeLabel} {e : TraceEvent}
    (h : e.after? stack = some stack') (outer : List ScopeLabel) :
    e.after? (stack ++ outer) = some (stack' ++ outer) := by
  obtain ⟨phase, label⟩ := e
  cases phase with
  | opens =>
    cases h
    rfl
  | closes =>
    cases stack with
    | nil => cases h
    | cons top stack =>
      simp only [after?, Option.ite_none_right_eq_some, Option.some.injEq, List.cons_append] at h ⊢
      exact ⟨h.1, by rw [h.2]⟩

theorem foldlM_after?_append {events : List TraceEvent} {stack stack' : List ScopeLabel}
    (h : events.foldlM TraceEvent.after? stack = some stack') (outer : List ScopeLabel) :
    events.foldlM TraceEvent.after? (stack ++ outer) = some (stack' ++ outer) := by
  induction events generalizing stack with
  | nil =>
    cases h
    rfl
  | cons e events ih =>
    rw [List.foldlM_cons, Option.bind_eq_bind, Option.bind_eq_some_iff] at h ⊢
    obtain ⟨next, hnext, hrest⟩ := h
    exact ⟨next ++ outer, TraceEvent.after?_append hnext outer, ih hrest⟩

namespace Bracketed

theorem nil : Bracketed [] := rfl

/-- Bracketed events leave the scopes that are open as they are. -/
theorem foldlM_eq {events : List TraceEvent} (h : Bracketed events) (stack : List ScopeLabel) :
    events.foldlM TraceEvent.after? stack = some stack :=
  foldlM_after?_append h stack

theorem append {events events' : List TraceEvent} (h : Bracketed events)
    (h' : Bracketed events') : Bracketed (events ++ events') := by
  rw [Bracketed, List.foldlM_append, h, Option.bind_eq_bind, Option.bind_some]
  exact h'

theorem flatMap {α : Type} {f : α → List TraceEvent} : ∀ {l : List α},
    (∀ a ∈ l, Bracketed (f a)) → Bracketed (l.flatMap f)
  | [], _ => nil
  | a :: l, h => by
    rw [List.flatMap_cons]
    exact (h a List.mem_cons_self).append (flatMap fun b hb => h b (List.mem_cons_of_mem _ hb))

theorem around {events : List TraceEvent} (h : Bracketed events) (label : ScopeLabel) :
    Bracketed (label.around events) := by
  rw [Bracketed, ScopeLabel.around, List.foldlM_append, List.foldlM_cons]
  simp [TraceEvent.after?, h.foldlM_eq]

end Bracketed

/-! ## Spans -/

/-- A scope of a run. -/
inductive Span
  /-- Its label, whether recording was on when it opened, and the scopes inside it. -/
  | mk (label : ScopeLabel) (recorded : Bool) (inner : List Span)

namespace Span

mutual

/-- The events of a span : both of its own around those inside it, or only these. -/
def events : Span → List TraceEvent
  | mk label recorded inner =>
    if recorded then label.around (eventsAll inner) else eventsAll inner

/-- The events of some spans, one after another. -/
def eventsAll : List Span → List TraceEvent
  | [] => []
  | s :: rest => events s ++ eventsAll rest

end

theorem eventsAll_append (l l' : List Span) :
    eventsAll (l ++ l') = eventsAll l ++ eventsAll l' := by
  induction l with
  | nil => rfl
  | cons s rest ih => rw [List.cons_append, eventsAll, eventsAll, ih, List.append_assoc]

mutual

theorem bracketed_events : ∀ s : Span, Bracketed s.events
  | mk label recorded inner => by
    rw [events]
    split
    · exact (bracketed_eventsAll inner).around label
    · exact bracketed_eventsAll inner

theorem bracketed_eventsAll : ∀ l : List Span, Bracketed (eventsAll l)
  | [] => .nil
  | s :: rest => by
    rw [eventsAll]
    exact (bracketed_events s).append (bracketed_eventsAll rest)

end

end Span

/-! ## What a run switches, clears and opens -/

namespace Action

mutual

/-- Whether recording is on behind a step, if it is `on` in front of it. -/
def leaves (on : Bool) : Action → Bool
  | .enable => true
  | .disable => false
  | .clear => on
  | .scope _ body => leavesAll on body

/-- Whether recording is on behind a list of steps. -/
def leavesAll (on : Bool) : List Action → Bool
  | [] => on
  | a :: rest => leavesAll (leaves on a) rest

end

mutual

/-- The spans of a step, if recording is `on` in front of it. -/
def spans (on : Bool) : Action → List Span
  | .scope label body => [.mk label on (spansAll on body)]
  | _ => []

/-- The spans of a list of steps. -/
def spansAll (on : Bool) : List Action → List Span
  | [] => []
  | a :: rest => spans on a ++ spansAll (leaves on a) rest

end

mutual

/-- Whether a step clears the record, by itself or inside its scope. -/
def clears : Action → Bool
  | .clear => true
  | .scope _ body => clearsAny body
  | _ => false

/-- Whether one of the steps clears the record. -/
def clearsAny : List Action → Bool
  | [] => false
  | a :: rest => clears a || clearsAny rest

end

/-- Steps that clear the record only while no scope is open. -/
def ClearsOutside (steps : List Action) : Prop :=
  ∀ label body, .scope label body ∈ steps → clearsAny body = false

end Action

namespace Recorder

open Livery.Action (leaves leavesAll spans spansAll clears clearsAny ClearsOutside)

theorem runAll_append (r : Recorder) (l l' : List Action) :
    r.runAll (l ++ l') = (r.runAll l).runAll l' := by
  induction l generalizing r with
  | nil => rfl
  | cons a rest ih => rw [List.cons_append, runAll, runAll, ih]

@[simp] theorem events_push (r : Recorder) (e : TraceEvent) :
    (r.push e).events = r.events ++ [e] := rfl

@[simp] theorem enabled_opened (r : Recorder) (label : ScopeLabel) :
    (r.opened label).enabled = r.enabled := by
  rw [opened]
  split <;> rfl

@[simp] theorem enabled_closed (r : Recorder) (recorded : Bool) (label : ScopeLabel) :
    (r.closed recorded label).enabled = r.enabled := by
  rw [closed]
  split <;> rfl

mutual

/-- Whether recording is on behind a step is settled by the switches in it. -/
theorem enabled_run : ∀ (a : Action) (r : Recorder), (r.run a).enabled = leaves r.enabled a
  | .enable, r => rfl
  | .disable, r => rfl
  | .clear, r => rfl
  | .scope label body, r => by
    rw [run, enabled_closed, enabled_runAll body, enabled_opened, leaves]

theorem enabled_runAll : ∀ (l : List Action) (r : Recorder),
    (r.runAll l).enabled = leavesAll r.enabled l
  | [], r => rfl
  | a :: rest, r => by rw [runAll, enabled_runAll rest, enabled_run a, leavesAll]

end

/-- A scope has both of its events around what is recorded inside it, or none. -/
theorem events_scope {r : Recorder} {label : ScopeLabel} {body : List Action}
    {inner : List TraceEvent}
    (h : ((r.opened label).runAll body).events = (r.opened label).events ++ inner) :
    (r.run (.scope label body)).events =
      r.events ++ if r.enabled then label.around inner else inner := by
  rw [run, closed]
  -- What is settled at the opening decides about the end, whatever the body switches.
  cases hr : r.enabled with
  | true =>
    have hopened : (r.opened label).events = r.events ++ [⟨.opens, label⟩] := by
      rw [opened, hr]
      rfl
    rw [if_pos rfl, if_pos rfl, events_push, h, hopened, ScopeLabel.around]
    simp
  | false =>
    have hopened : r.opened label = r := by
      rw [opened, hr]
      rfl
    rw [if_neg Bool.false_ne_true, if_neg Bool.false_ne_true, h, hopened]

mutual

/-- A step that clears nothing adds the events of its spans. -/
theorem events_run : ∀ (a : Action) (r : Recorder), clears a = false →
    (r.run a).events = r.events ++ Span.eventsAll (spans r.enabled a)
  | .enable, r, _ => (List.append_nil _).symm
  | .disable, r, _ => (List.append_nil _).symm
  | .clear, r, h => by cases h
  | .scope label body, r, h => by
    have hbody := events_runAll body (r.opened label) h
    rw [enabled_opened] at hbody
    rw [events_scope hbody, spans, Span.eventsAll, Span.eventsAll, Span.events, List.append_nil]

/-- So do the steps of a run. -/
theorem events_runAll : ∀ (l : List Action) (r : Recorder), clearsAny l = false →
    (r.runAll l).events = r.events ++ Span.eventsAll (spansAll r.enabled l)
  | [], r, _ => (List.append_nil _).symm
  | a :: rest, r, h => by
    rw [clearsAny, Bool.or_eq_false_iff] at h
    rw [runAll, events_runAll rest _ h.2, events_run a r h.1, enabled_run, spansAll,
      Span.eventsAll_append, List.append_assoc]

end

/-- A scope that clears nothing adds the events of its span. -/
theorem events_span {label : ScopeLabel} {body : List Action} (h : clearsAny body = false)
    (r : Recorder) : (r.run (.scope label body)).events =
      r.events ++ (Span.mk label r.enabled (spansAll r.enabled body)).events := by
  have hscope := events_run (.scope label body) r (by rw [clears, h])
  rwa [spans, Span.eventsAll, Span.eventsAll, List.append_nil] at hscope

/-! ## Runs -/

/-- Where no scope is open the record stays bracketed : a step from there clears it, leaves it, or
adds the events of a scope. -/
theorem bracketed_runAll {r : Recorder} (hr : Bracketed r.events) {steps : List Action}
    (h : ClearsOutside steps) : Bracketed (r.runAll steps).events := by
  induction steps generalizing r with
  | nil => exact hr
  | cons a rest ih =>
    rw [runAll]
    refine ih ?_ fun label body hmem => h label body (List.mem_cons_of_mem _ hmem)
    cases a with
    | enable => exact hr
    | disable => exact hr
    | clear => exact .nil
    | scope label body =>
      rw [events_span (h label body List.mem_cons_self)]
      exact hr.append (Span.bracketed_events _)

/--
At the end of each outermost scope of a run the record is bracketed : every end in it is that of the
scope opened last, with its name and its detail. To the record the scope has added its own events,
if recording was on when it opened, around those of the spans inside it, each of which has both of
its events or none in the same way. Whether recording is on at a place of the run is settled by the
switches in front of it.
-/
theorem bracketed_behind_scope {r : Recorder} (hr : Bracketed r.events) {steps : List Action}
    (hsteps : ClearsOutside steps) {done rest body : List Action} {label : ScopeLabel}
    (h : steps = done ++ .scope label body :: rest) :
    Bracketed (r.runAll (done ++ [.scope label body])).events ∧
      (r.runAll (done ++ [.scope label body])).events = (r.runAll done).events ++
        (Span.mk label (r.runAll done).enabled (spansAll (r.runAll done).enabled body)).events ∧
      ∀ l, (r.runAll l).enabled = leavesAll r.enabled l := by
  have hbody : clearsAny body = false := hsteps label body (by simp [h])
  have hdone : ClearsOutside (done ++ [.scope label body]) := by
    intro label' body' hmem
    refine hsteps label' body' ?_
    rcases List.mem_append.mp hmem with hmem | hmem
    · simp [h, hmem]
    · simp [h, List.mem_singleton.mp hmem]
  refine ⟨bracketed_runAll hr hdone, ?_, fun l => enabled_runAll l r⟩
  rw [runAll_append, runAll, runAll, events_span hbody]

/-- Recording is turned off inside the page, and on again inside a hint. -/
def switchedPage : Action :=
  .scope ⟨"page", none⟩
    [.disable, .scope ⟨"rune", some "Hint"⟩ [.enable, .scope ⟨"rune", some "Note"⟩ []], .disable]

/-- The hint is not recorded, and the note inside it is. -/
theorem bracketed_behind_scope_page :
    Bracketed ({} : Recorder).events ∧ ClearsOutside [.clear, .enable, switchedPage, .clear] ∧
    (({} : Recorder).runAll [.clear, .enable, switchedPage]).events =
      ScopeLabel.around ⟨"page", none⟩ (ScopeLabel.around ⟨"rune", some "Note"⟩ []) ∧
    Bracketed (ScopeLabel.around ⟨"page", none⟩ (ScopeLabel.around ⟨"rune", some "Note"⟩ [])) := by
  have hsteps : ClearsOutside [.clear, .enable, switchedPage, .clear] := by
    intro label body hmem
    have hpage : Action.scope label body = switchedPage := by simpa using hmem
    cases hpage
    rfl
  have hpage : [.clear, .enable, switchedPage, .clear] =
      [.clear, .enable] ++ .scope ⟨"page", none⟩ _ :: [.clear] := rfl
  obtain ⟨hbracketed, hevents, -⟩ := bracketed_behind_scope (r := {}) .nil hsteps hpage
  rw [hevents] at hbracketed
  exact ⟨.nil, hsteps, hevents, hbracketed⟩

end Recorder

end Livery
