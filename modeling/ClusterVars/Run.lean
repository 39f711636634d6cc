import ClusterVars.FileTree
import ClusterVars.Filter
import ClusterVars.Task

/-! Runs of the program over files. A run reads the configuration, then all layers, and writes at
most one file, last; how files are read and written is left open, so that the same run is a
function on file trees and a program on a disk. -/
namespace ClusterVars

/-- Access to files. -/
structure Files (m : Type → Type) where
  read : String → m (Except FileError String)
  write : String → String → m (Except FileError Unit)

/-- What a run shows. -/
structure Outcome where
  exitCode : Nat
  stdout : String := ""
  notices : List Notice := []
  report : Option String := none
  deriving DecidableEq, Repr

namespace Outcome

def failed (notices : List Notice) (failure : Failure) : Outcome :=
  { exitCode := 1, notices := notices, report := some failure.report }

/-- The lines of the log under a filter. -/
def log (o : Outcome) (filter : Filter) : List String :=
  (o.notices.filter filter.shows).map Notice.line

end Outcome

def version : String := "0.1.0"

def usage : String :=
  "Check and export Vagrant CI variable files\n\n"
    ++ "Usage: " ++ programName ++ " [-v] [-f CONFIG] COMMAND\n\n"
    ++ "Commands:\n"
    ++ "  check FILES...\n"
    ++ "  render [-d] [--format FORMAT] FILES...\n"
    ++ "  export [--format FORMAT] [-o PATH] FILES...\n"
    ++ "  options\n"
    ++ "  help [COMMAND]\n"

namespace UsageStop

def message : UsageStop → String
  | .helpRequested | .versionRequested => ""
  | .nothingGiven => usage
  | .missingCommand => "error: a command is required"
  | .unknownCommand => "error: unrecognized command"
  | .missingFile => "error: a file is required"
  | .unknownArgument => "error: unexpected argument"
  | .repeated => "error: an option is given twice"
  | .missingValue => "error: a value is required"
  | .invalidFormat => "error: invalid format, expected yaml, json or toml"
  | .unwantedValue => "error: an option does not take a value"

def outcome (stop : UsageStop) : Outcome :=
  match stop with
  | .helpRequested => { exitCode := stop.exitCode, stdout := usage }
  | .versionRequested =>
    { exitCode := stop.exitCode, stdout := programName ++ " " ++ version ++ "\n" }
  | _ => { exitCode := stop.exitCode, report := some stop.message }

end UsageStop

namespace Invocation
variable {m : Type → Type} [Monad m]

def readLayers (files : Files m) : List String → m (List Layer)
  | [] => return []
  | path :: rest => do
    let text ← files.read path
    let layers ← readLayers files rest
    return ⟨path, text⟩ :: layers

/-- Reads everything the task needs and carries it out. Layers are read only under a valid
configuration. -/
def deliver (files : Files m) (i : Invocation) : m (Logged Delivery) := do
  let content ← files.read (i.config.getD Config.defaultPath)
  let config := Config.load i.config content
  match config.result with
  | .error failure => return ⟨config.notices, .error failure⟩
  | .ok loaded =>
    let layers ← readLayers files (i.task.layerPaths loaded)
    return config.bind fun config => i.task.answer config layers

/-- Runs to the end: only a run in which nothing failed prints or writes anything. -/
def run (files : Files m) (i : Invocation) : m Outcome := do
  let delivered ← i.deliver files
  match delivered.result with
  | .error failure => return Outcome.failed delivered.notices failure
  | .ok (.print text) =>
    return { exitCode := 0, stdout := text, notices := delivered.notices }
  | .ok (.write path text) =>
    match ← files.write path text with
    | .error cause => return Outcome.failed delivered.notices (.unwritable path cause)
    | .ok () =>
      return {
        exitCode := 0
        stdout := Task.done ("Settings written (" ++ path ++ ")")
        notices := delivered.notices ++ [.written path] }

end Invocation

/-- A run of the program on its arguments. -/
def runArguments {m : Type → Type} [Monad m] (files : Files m) (arguments : List String) :
    m Outcome :=
  match Invocation.read arguments with
  | .error stop => return stop.outcome
  | .ok invocation => invocation.run files

namespace FileTree

/-- A file tree as the files of a run, which may change it. -/
def access : Files (StateM FileTree) where
  read path := fun t => (t.read path, t)
  write path text := fun t =>
    match t.write path text with
    | .ok after => (.ok (), after)
    | .error cause => (.error cause, t)

/-- A run on a file tree: the outcome and the tree after it. -/
def run (t : FileTree) (arguments : List String) : Outcome × FileTree :=
  runArguments access arguments t

end FileTree
end ClusterVars
