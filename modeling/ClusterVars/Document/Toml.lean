import ClusterVars.Document
import ClusterVars.Text.Hex

/-! Documents in TOML. A text takes the first of four styles that can hold it as it is; a text that
none can hold is escaped. Integers of the format have 64 bits and a sign. -/
namespace ClusterVars.Toml
open Text

def maxInteger : Nat := 9223372036854775807

/-- The length of the longest run of a character. -/
def longestRun (c : Char) (cs : List Char) : Nat :=
  (cs.foldl (fun (run, longest) d =>
    if d = c then (run + 1, max longest (run + 1)) else (0, longest)) (0, 0)).2

/-- Control characters that no style holds as they are. -/
def isControl (c : Char) : Bool :=
  c.toNat < 0x20 && c ≠ '\t' && c ≠ '\n' || c.toNat = 0x7F

def escape (c : Char) : List Char :=
  if c = '\\' then ['\\', '\\']
  else if c = '\x08' then ['\\', 'b']
  else if c = '\t' then ['\\', 't']
  else if c = '\n' then ['\\', 'n']
  else if c = '\x0c' then ['\\', 'f']
  else if c = '\r' then ['\\', 'r']
  else if isControl c then ['\\', 'u'] ++ upperHex 4 c.toNat
  else [c]

/-- The content of a basic string on one line. -/
def basic (cs : List Char) : List Char :=
  cs.flatMap fun c => if c = '"' then ['\\', '"'] else escape c

/-- The content of a basic string over several lines: every third quote in a row is escaped.
`run` counts the quotes just before. -/
def multiBasic : Nat → List Char → List Char
  | _, [] => []
  | run, c :: rest =>
    if c = '"' then
      if run = 2 then '\\' :: '"' :: multiBasic 0 rest else '"' :: multiBasic (run + 1) rest
    else if c = '\n' then '\n' :: multiBasic 0 rest
    else escape c ++ multiBasic 0 rest

def string (s : String) : String :=
  let cs := s.toList
  let control := cs.any isControl
  let backslash := cs.contains '\\'
  let newline := cs.contains '\n'
  let doubles := longestRun '"' cs
  let singles := longestRun '\x27' cs
  let opening := if newline then ['\n'] else []
  let threeDouble := ['"', '"', '"']
  let threeSingle := ['\x27', '\x27', '\x27']
  String.ofList <|
    if !control && !backslash && doubles = 0 && !newline then ['"'] ++ basic cs ++ ['"']
    else if !control && singles = 0 && !newline then ['\x27'] ++ cs ++ ['\x27']
    else if !control && !backslash && doubles ≤ 2 then
      threeDouble ++ opening ++ multiBasic 0 cs ++ threeDouble
    else if !control && singles ≤ 2 then threeSingle ++ opening ++ cs ++ threeSingle
    else if newline then threeDouble ++ opening ++ multiBasic 0 cs ++ threeDouble
    else ['"'] ++ basic cs ++ ['"']

def value : Value → String
  | .text s => string s
  | .count n => toString n
  | .flag b => if b then "true" else "false"

def fields (fs : Fields) : String :=
  String.join (fs.map fun f => f.1 ++ " = " ++ value f.2 ++ "\n")

def fits : Value → Bool
  | .count n => n ≤ maxInteger
  | _ => true

/-- Nothing when a number has no integer of the format. -/
def write? (d : Document) : Option String :=
  if d.allFields.all fun f => fits f.2 then
    some <| match d with
      | .flat fs => fields fs
      | .sectioned ss => "\n".intercalate (ss.map fun s => "[" ++ s.1 ++ "]\n" ++ fields s.2)
  else none

end ClusterVars.Toml
