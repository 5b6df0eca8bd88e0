/-!
# Traces

A run is traced by scopes: while recording is on, every scope adds an event when it opens and one
when it closes. `Action` is what a run does as far as the trace is concerned, and `Recorder.run`
what the recorder holds behind it. Whether a scope is recorded is settled when it opens, so its two
events stand or fall together.
-/

namespace Livery

/-- The name of a scope, and what it is about. -/
structure ScopeLabel where
  name : String
  detail : Option String := none
deriving DecidableEq

/-- Whether an event opens or closes its scope. -/
inductive Phase
  | opens
  | closes
deriving DecidableEq

/-- A recorded event. -/
structure TraceEvent where
  phase : Phase
  label : ScopeLabel
deriving DecidableEq

/-- A step of a run that matters to the recorder. -/
inductive Action
  /-- Recording is turned on. -/
  | enable
  /-- Recording is turned off; what has been recorded stays. -/
  | disable
  /-- The recorded events are dropped. -/
  | clear
  /-- A scope around other steps. -/
  | scope (label : ScopeLabel) (body : List Action)

/-- The state of recording: whether it is on, and the events so far. -/
structure Recorder where
  enabled : Bool := false
  events : List TraceEvent := []
deriving DecidableEq

namespace Recorder

/-- The recorder with one more event. -/
def push (r : Recorder) (e : TraceEvent) : Recorder := { r with events := r.events ++ [e] }

/-- The recorder behind the opening of a scope, which is recorded if recording is on. -/
def opened (r : Recorder) (label : ScopeLabel) : Recorder :=
  if r.enabled then r.push ⟨.opens, label⟩ else r

/-- The recorder behind the end of a scope whose opening was `recorded` or not. -/
def closed (r : Recorder) (recorded : Bool) (label : ScopeLabel) : Recorder :=
  if recorded then r.push ⟨.closes, label⟩ else r

mutual

/-- The recorder behind a step. -/
def run (r : Recorder) : Action → Recorder
  | .enable => { r with enabled := true }
  | .disable => { r with enabled := false }
  | .clear => { r with events := [] }
  | .scope label body => (runAll (r.opened label) body).closed r.enabled label

/-- The recorder behind a list of steps. -/
def runAll (r : Recorder) : List Action → Recorder
  | [] => r
  | a :: rest => runAll (run r a) rest

end

end Recorder

end Livery
