import ClusterVars.Document.Json
import ClusterVars.Document.Toml
import ClusterVars.Document.Yaml
import ClusterVars.Format
import ClusterVars.Journal

/-! Writing a document in a format. -/
namespace ClusterVars

/-- Fails only for a number that the format has no integer for. -/
def Document.write (format : Format) (d : Document) : Except Failure String :=
  match format with
  | .yaml => .ok (Yaml.write d)
  | .json => .ok (Json.write d)
  | .toml =>
    match Toml.write? d with
    | some text => .ok text
    | none => .error .outOfRange

end ClusterVars
