import ClusterVars.Journal
import ClusterVars.Record
import ClusterVars.Statement

/-! Loading variable files. The statements of a text are applied in order to the bindings so far;
a text with a malformed line is refused as a whole, before any of its statements counts. -/
namespace ClusterVars

/-- What becomes of a statement on a name outside the schema. -/
inductive Policy
  | reject
  | warn
  deriving DecidableEq, Repr

namespace Policy

def name : Policy → String
  | .reject => "reject"
  | .warn => "warn"

def ofName? : String → Option Policy
  | "reject" => some .reject
  | "warn" => some .warn
  | _ => none

end Policy

/-- Applies a statement. Its literal has to fit the option even where the option is kept. -/
def Statement.apply (policy : Policy) (b : Bindings) (s : Statement) : Logged Bindings :=
  match Key.ofName? s.assignment.name with
  | none =>
    match policy with
    | .reject => Logged.fail (.unknownName s.location s.assignment.name)
    | .warn => do
      Logged.note (.ignored s.location s.assignment.name)
      return b
  | some key =>
    match key.meaning? s.assignment.value with
    | none => Logged.fail (.mismatch s.location key s.assignment.value)
    | some value =>
      match s.assignment.operator with
      | .assign => return b.assign key.name value
      | .fill =>
        if b.isSet key.name then do
          Logged.note (.kept s.location key)
          return b
        else return b.assign key.name value

/-- Applies statements one after the other, up to the first failure. -/
def applyAll (policy : Policy) : Bindings → List Statement → Logged Bindings
  | b, [] => return b
  | b, s :: rest => do
    let b ← s.apply policy b
    applyAll policy b rest

/-- Applies the statements of a text. -/
def Bindings.addText (policy : Policy) (b : Bindings) (source text : String) :
    Logged Bindings := do
  let statements ← Logged.ofExcept (Statement.readText source text)
  let b ← applyAll policy b statements
  Logged.note (.resolved source b.entries.length)
  return b

/-- A text with its name, or the reason for which it cannot be read. -/
structure Layer where
  source : String
  text : Except FileError String

def Bindings.addLayer (policy : Policy) (b : Bindings) (layer : Layer) : Logged Bindings :=
  match layer.text with
  | .error cause => Logged.fail (.unreadable layer.source cause)
  | .ok text => b.addText policy layer.source text

def Bindings.addLayers (policy : Policy) : Bindings → List Layer → Logged Bindings
  | b, [] => return b
  | b, layer :: rest => do
    let b ← b.addLayer policy layer
    b.addLayers policy rest

/-- The record that a single text describes. -/
def Record.ofText (policy : Policy) (source text : String) : Logged Record := do
  let b ← Bindings.empty.addText policy source text
  return Record.ofBindings b

/-- The record that layers describe together, each on top of those before it. -/
def Record.ofLayers (policy : Policy) (layers : List Layer) : Logged Record := do
  let b ← Bindings.empty.addLayers policy layers
  return Record.ofBindings b

end ClusterVars
