import ClusterVars.Assignment
import ClusterVars.Failure
import ClusterVars.Text.Lines

/-! Variable files as sequences of statements. -/
namespace ClusterVars
open Text

/-- An assignment and the line it stands on. -/
structure Statement where
  location : Location
  assignment : Assignment
  deriving DecidableEq, Repr

namespace Statement

/-- Reads the lines from number `line` on and stops at the first malformed one. -/
def readLines (source : String) : Nat → List (List Char) → Except Failure (List Statement)
  | _, [] => .ok []
  | line, first :: rest =>
    match Assignment.read first with
    | .error fault => .error (.malformed ⟨source, line⟩ fault)
    | .ok none => readLines source (line + 1) rest
    | .ok (some assignment) =>
      (readLines source (line + 1) rest).map (⟨⟨source, line⟩, assignment⟩ :: ·)

/-- The statements of a text. -/
def readText (source text : String) : Except Failure (List Statement) :=
  readLines source 1 (lines (dropMark text.toList))

end Statement
end ClusterVars
