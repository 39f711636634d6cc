import ClusterVars.Document.Write
import ClusterVars.Settings

/-! Sessions: bindings worked on step by step. A step that fails leaves the session as it was. -/
namespace ClusterVars

structure Session where
  policy : Policy
  bindings : Bindings

namespace Session

inductive Step
  | layer (source text : String)
  | policy (policy : Policy)
  | assign (name : String) (value : Option Value)
  | fill (name : String) (value : Option Value)
  | get (name : String)
  | isSet (name : String)
  | record
  /-- Turns the bindings into a record and back. -/
  | throughRecord
  | applyDefaults
  | render
  /-- Loads the rendered record in place of the bindings. -/
  | reload
  /-- Settings in the format of that name. -/
  | settings (format : String)
  deriving Repr

inductive Reply
  | done
  | told (b : Bool)
  | value (value : Option Value)
  | record (r : Record)
  | text (s : String)
  deriving Repr

/-- The name under which a rendered record is loaded. -/
def renderedSource : String := "rendered"

def formatNamed (name : String) : Except Failure Format :=
  match Format.ofRequest? name with
  | some format => .ok format
  | none => .error (.unknownFormat name.toLower)

/-- Carries out a step: the reply and the session after it. -/
def step (d : Defaults) (s : Session) : Step → Logged (Reply × Session)
  | .layer source text => do
    let b ← s.bindings.addText s.policy source text
    return (.done, { s with bindings := b })
  | .policy policy => return (.done, { s with policy := policy })
  | .assign name value =>
    return (.done, { s with bindings := s.bindings.assign name value })
  | .fill name value =>
    return (.told (!s.bindings.isSet name), { s with bindings := s.bindings.fill name value })
  | .get name => return (.value (s.bindings.value? name), s)
  | .isSet name => return (.told (s.bindings.isSet name), s)
  | .record => return (.record (Record.ofBindings s.bindings), s)
  | .throughRecord =>
    return (.done, { s with bindings := (Record.ofBindings s.bindings).toBindings })
  | .applyDefaults => do
    let filled ← d.fill (Record.ofBindings s.bindings)
    return (.done, { s with bindings := filled.toBindings })
  | .render => return (.text (Record.ofBindings s.bindings).render, s)
  | .reload => do
    let b ← Bindings.empty.addText s.policy renderedSource (Record.ofBindings s.bindings).render
    return (.done, { s with bindings := b })
  | .settings name => do
    let settings ← Settings.build (Record.ofBindings s.bindings) d
    let format ← Logged.ofExcept (formatNamed name)
    let text ← Logged.ofExcept (settings.document.write format)
    return (.text text, s)

/-- What a step shows: its reply or failure, its notices, and the bindings after it. -/
structure Trace where
  reply : Logged Reply
  after : Session

/-- A step of a session that outlives failures. -/
def perform (d : Defaults) (s : Session) (step : Step) : Trace :=
  let taken := s.step d step
  match taken.result with
  | .ok (reply, after) => ⟨⟨taken.notices, .ok reply⟩, after⟩
  | .error failure => ⟨⟨taken.notices, .error failure⟩, s⟩

/-- The traces of steps taken one after the other. -/
def run (d : Defaults) : Session → List Step → List Trace
  | _, [] => []
  | s, step :: rest =>
    let trace := s.perform d step
    trace :: run d trace.after rest

end Session
end ClusterVars
