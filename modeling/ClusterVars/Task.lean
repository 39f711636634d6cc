import ClusterVars.Config
import ClusterVars.Document.Write
import ClusterVars.Invocation
import ClusterVars.Settings

/-! What each task makes of the configuration and the layers: a text to print or to write. -/
namespace ClusterVars

def programName : String := "vars-runner"

/-- What a task hands over when nothing went wrong. -/
inductive Delivery
  | print (text : String)
  | write (path text : String)
  deriving DecidableEq, Repr

/-- Leaves a notice when the computation fails. -/
def Logged.noteFailure {α : Type} (n : Notice) (x : Logged α) : Logged α :=
  match x.result with
  | .ok _ => x
  | .error _ => { x with notices := x.notices ++ [n] }

namespace Task

def done (message : String) : String := "✔ " ++ message ++ "\n"

/-- The files that are loaded, which come after the base layers. -/
def files : Task → List String
  | .check files | .render files _ _ | .provision files _ _ => files
  | .options => []

/-- All layers in the order in which they are loaded. -/
def layerPaths (config : Config) : Task → List String
  | .options => []
  | task => config.base ++ task.files

def loadRecord (config : Config) (layers : List Layer) : Logged Record := do
  Logged.note (.layers layers.length)
  (Record.ofLayers config.unknownOptions layers).noteFailure .loadFailed

/-- The header of a rendered record names everything that went into it. -/
def header (sources : List String) (defaults : Bool) : String :=
  "\n".intercalate <|
    ["Rendered by " ++ programName ++ " from:"] ++ sources.map ("  " ++ ·)
      ++ if defaults then ["  " ++ Defaults.source] else []

def padRight (width : Nat) (s : String) : String :=
  s ++ String.ofList (List.replicate (width - s.length) ' ')

def optionLines (key : Key) : String :=
  padRight 22 key.name ++ " " ++ padRight 8 key.kind.typeName ++ " " ++ key.about ++ "\n"
    ++ match key.kind.choices? with
      | some names => padRight 31 "" ++ " " ++ " | ".intercalate names ++ "\n"
      | none => ""

def optionList (d : Defaults) : String :=
  String.join (Key.all.map optionLines) ++ "\n# Vagrantfile defaults\n" ++ d.render

/-- Carries out a task on layers that have been read. -/
def answer (config : Config) (layers : List Layer) : Task → Logged Delivery
  | .check files => do
    let r ← loadRecord config layers
    Logged.note (.listed r.keys)
    return .print (done (toString r.keys.length ++ " option(s) resolved ("
      ++ ", ".intercalate files ++ ")"))
  | .render files defaults format => do
    let loaded ← loadRecord config layers
    let r ← if defaults then config.defaults.fill loaded else pure loaded
    match format with
    | some format =>
      let text ← Logged.ofExcept (r.document.write format)
      return .print text
    | none => return .print (r.renderUnder (header (config.base ++ files) defaults))
  | .provision _ format output => do
    let r ← loadRecord config layers
    let settings ← Settings.build r config.defaults
    let text ← Logged.ofExcept (settings.document.write (format.getD config.format))
    match output with
    | some path => return .write path text
    | none => return .print text
  | .options => return .print (optionList config.defaults)

end Task
end ClusterVars
