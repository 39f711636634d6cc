import ClusterVars.Run

/-! The program on the files of the machine. -/
namespace ClusterVars

def fileError : IO.Error → FileError
  | .noFileOrDirectory .. => .missing
  | .noSuchThing .. => .missing
  | .inappropriateType _ 20 _ => .notDirectory
  | .inappropriateType _ 21 _ => .isDirectory
  | .invalidArgument _ 36 _ => .nameTooLong
  | error => .other (toString error)

/-- The files of the machine; texts are UTF-8. -/
def diskFiles : Files IO where
  read path := do
    if let some cause := FileError.ofPath? path then return .error cause
    match ← (IO.FS.readBinFile path).toBaseIO with
    | .error error => return .error (fileError error)
    | .ok bytes =>
      match String.fromUTF8? bytes with
      | some text => return .ok text
      | none => return .error .notText
  write path text := do
    if let some cause := FileError.ofPath? path then return .error cause
    match ← (IO.FS.writeFile path text).toBaseIO with
    | .error error => return .error (fileError error)
    | .ok () => return .ok ()

/-- Whether the arguments ask for a verbose log. -/
def isVerbose (arguments : List String) : Bool :=
  match Invocation.read arguments with
  | .ok invocation => invocation.verbose
  | .error _ => false

end ClusterVars

open ClusterVars in
def main (arguments : List String) : IO UInt32 := do
  let outcome ← runArguments diskFiles arguments
  let filter := Filter.choose (← IO.getEnv "LOG") (isVerbose arguments)
  for line in outcome.log filter do
    IO.eprintln line
  IO.print outcome.stdout
  if let some report := outcome.report then
    IO.eprintln report
  return UInt32.ofNat outcome.exitCode
