/-! The formats in which documents are written. -/
namespace ClusterVars

inductive Format
  | yaml
  | json
  | toml
  deriving DecidableEq, Repr

namespace Format

/-- The name of the format, which is also the usual extension of its files. -/
def name : Format → String
  | .yaml => "yaml"
  | .json => "json"
  | .toml => "toml"

/-- The format of that name, in lower case. -/
def ofName? : String → Option Format
  | "yaml" => some .yaml
  | "json" => some .json
  | "toml" => some .toml
  | _ => none

/-- The format that a user asks for: in any case, and with a second name for the first one. -/
def ofRequest? (request : String) : Option Format :=
  if request.toLower = "yml" then some .yaml else ofName? request.toLower

end Format
end ClusterVars
