import ClusterVars.Box
import ClusterVars.Schema

/-! Everything that can go wrong, by cause, and how each cause is worded. -/
namespace ClusterVars

/-- A line of a named text; lines are counted from one. -/
structure Location where
  source : String
  line : Nat
  deriving DecidableEq, Repr

def Location.text (l : Location) : String := l.source ++ ":" ++ toString l.line

inductive FileError
  | missing
  | notDirectory
  | isDirectory
  /-- The bytes are not UTF-8. -/
  | notText
  /-- A path, or a name in it, is longer than a file system takes. -/
  | nameTooLong
  /-- The path holds the character U+0000. -/
  | nulInName
  /-- Anything else that the operating system reports. -/
  | other (report : String)
  deriving DecidableEq, Repr

def FileError.message : FileError → String
  | .missing => "No such file or directory (os error 2)"
  | .notDirectory => "Not a directory (os error 20)"
  | .isDirectory => "Is a directory (os error 21)"
  | .notText => "stream did not contain valid UTF-8"
  | .nameTooLong => "File name too long (os error 36)"
  | .nulInName => "file name contained an unexpected NUL byte"
  | .other report => report

inductive Failure
  | malformed (location : Location) (fault : LineFault)
  | unknownName (location : Location) (name : String)
  /-- The literal does not fit the kind of the option. -/
  | mismatch (location : Location) (key : Key) (found : Literal)
  | unreadable (path : String) (cause : FileError)
  /-- A number is larger than the format can hold. -/
  | outOfRange
  | unsupportedOs (os : String)
  /-- An option that the defaults should have filled is unset. -/
  | unset (key : Key)
  | unwritable (path : String) (cause : FileError)
  | unknownFormat (name : String)
  | configUnreadable (cause : FileError)
  | configInvalid
  deriving DecidableEq, Repr

namespace Failure

def message : Failure → String
  | .malformed location fault =>
    location.text ++ ": malformed assignment: " ++ fault.message
  | .unknownName location name => location.text ++ ": unknown option `$" ++ name ++ "`"
  | .mismatch location key found =>
    location.text ++ ": `$" ++ key.name ++ "` expects " ++ key.kind.describe ++ ", got "
      ++ found.describe
  | .unreadable path cause => "could not read " ++ path ++ ": " ++ cause.message
  | .outOfRange => "serialization error: out-of-range value for u64 type"
  | .unsupportedOs os =>
    "unsupported os `" ++ os ++ "`, expected one of: "
      ++ ", ".intercalate (Box.all.map (·.os))
  | .unset key => "option `$" ++ key.name ++ "` has no value"
  | .unwritable path cause => "could not write " ++ path ++ ": " ++ cause.message
  | .unknownFormat name => "unknown format `" ++ name ++ "`, expected yaml, json or toml"
  | .configUnreadable cause => cause.message
  | .configInvalid => "TOML parse error"

/-- Where the offending statement stands, if the failure comes from one. -/
def location? : Failure → Option Location
  | .malformed location _ | .unknownName location _ | .mismatch location _ _ => some location
  | _ => none

/-- The underlying error of the file system, if it is reported beside the message. -/
def cause? : Failure → Option FileError
  | .unreadable _ cause | .unwritable _ cause => some cause
  | _ => none

/-- The report that a failed run ends with. -/
def report (failure : Failure) : String :=
  "Error: " ++ failure.message ++
    match failure.cause? with
    | some cause => "\n\nCaused by:\n    " ++ cause.message
    | none => ""

end Failure
end ClusterVars
