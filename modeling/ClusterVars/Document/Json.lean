import ClusterVars.Document
import ClusterVars.Text.Hex

/-! Documents in JSON, indented by two spaces. -/
namespace ClusterVars.Json
open Text

def escape (c : Char) : List Char :=
  if c = '"' then ['\\', '"']
  else if c = '\\' then ['\\', '\\']
  else if c = '\x08' then ['\\', 'b']
  else if c = '\t' then ['\\', 't']
  else if c = '\n' then ['\\', 'n']
  else if c = '\x0c' then ['\\', 'f']
  else if c = '\r' then ['\\', 'r']
  else if c.toNat < 0x20 then ['\\', 'u'] ++ hex 4 c.toNat
  else [c]

def string (s : String) : String := String.ofList ('"' :: s.toList.flatMap escape ++ ['"'])

def value : Value → String
  | .text s => string s
  | .count n => toString n
  | .flag b => if b then "true" else "false"

/-- Members between braces; `indent` is the indentation of the line on which the object starts. -/
def object (indent : String) (members : List (String × String)) : String :=
  match members with
  | [] => "\x7b\x7d"
  | _ =>
    "\x7b\n"
      ++ ",\n".intercalate (members.map fun m => indent ++ "  " ++ string m.1 ++ ": " ++ m.2)
      ++ "\n" ++ indent ++ "\x7d"

def fields (indent : String) (fs : Fields) : String :=
  object indent (fs.map fun f => (f.1, value f.2))

def write : Document → String
  | .flat fs => fields "" fs ++ "\n"
  | .sectioned ss => object "" (ss.map fun s => (s.1, fields "  " s.2)) ++ "\n"

end ClusterVars.Json
