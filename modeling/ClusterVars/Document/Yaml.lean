import ClusterVars.Decimal
import ClusterVars.Document
import ClusterVars.Text.Hex

/-! Documents in YAML. A text is written plain where a reader takes it for that text; otherwise it
is quoted, or written as a literal block when it has several lines. -/
namespace ClusterVars.Yaml
open Text

def isPrintable (c : Char) : Bool :=
  c = '\n' || inRanges [(0x20, 0x7E), (0xA0, 0xFEFE), (0xFF00, 0xFFFD), (0x10000, 0x10FFFF)] c

/-- A line ends at a line feed and at a line or paragraph separator. -/
def isBreak (c : Char) : Bool := c = '\n' || c = '\u2028' || c = '\u2029'

/-- A character of the first class stands directly before one of the second. -/
def hasPair (first second : Char → Bool) : List Char → Bool
  | a :: b :: rest => first a && second b || hasPair first second (b :: rest)
  | _ => false

def isSpace (c : Char) : Bool := c = ' '

/-- Only double quotes can hold such a text. -/
def isSpecial (cs : List Char) : Bool := cs.any (!isPrintable ·) || hasPair isSpace isBreak cs

/-- The rest of a text is empty or starts with a space. -/
def atSpace (cs : List Char) : Bool :=
  match cs with
  | [] => true
  | c :: _ => c = ' '

/-- The text starts with a character or mark that means something to a reader. -/
def startsLikeSyntax (cs : List Char) : Bool :=
  match cs with
  | [] => true
  | c :: rest =>
    "#,[]\x7b\x7d&*!|>'\"%@`".toList.contains c
      || (c = '?' || c = '-') && atSpace rest
      || ['-', '-', '-'].isPrefixOf cs
      || ['.', '.', '.'].isPrefixOf cs

def hasColonSpace : List Char → Bool
  | ':' :: rest => atSpace rest || hasColonSpace rest
  | _ :: rest => hasColonSpace rest
  | [] => false

def reservedWords : List String :=
  ["null", "Null", "NULL", "~", "true", "True", "TRUE", "false", "False", "FALSE"]

/-- Digits of a radix that give a number of at most 128 bits, sign included. -/
def isRadixNumber (radix : Nat) (negative : Bool) (digits : List Char) : Bool :=
  let n := digits.foldl (fun n c => radix * n + (unhex? [c]).getD 0) 0
  !digits.isEmpty && digits.all (fun c => (unhex? [c]).any (· < radix))
    && if negative then n ≤ Nat.pow 2 127 else n < Nat.pow 2 128

/-- Several digits of which the first is a zero are no number, but some readers take them for
one. -/
def hasLeadingZero (cs : List Char) : Bool :=
  cs.head? = some '0' && 1 < cs.length && cs.all Char.isDigit

/-- A number in one of the spellings that a reader recognises. -/
def isNumber (cs : List Char) : Bool :=
  let unsigned := Decimal.dropSign cs
  let negative : Bool := cs.head? = some '-'
  (match unsigned with
    | '0' :: 'x' :: digits => isRadixNumber 16 negative digits
    | '0' :: 'o' :: digits => isRadixNumber 8 negative digits
    | '0' :: 'b' :: digits => isRadixNumber 2 negative digits
    | _ => false)
    || hasLeadingZero unsigned
    || (match Decimal.read? unsigned with
      | some d => d.isFiniteDouble
      | none => false)
    || [".inf", ".Inf", ".INF"].contains (String.ofList unsigned)
    || [".nan", ".NaN", ".NAN"].contains (String.ofList cs)

/-- A text that a reader would not take as it is. -/
def needsQuotes (cs : List Char) : Bool :=
  startsLikeSyntax cs || cs.head? = some ' ' || cs.getLast? = some ' ' || hasColonSpace cs
    || hasPair isSpace (· = '#') cs || cs.any isBreak
    || reservedWords.contains (String.ofList cs) || isNumber cs

def escape (c : Char) : List Char :=
  if c = '\x00' then ['\\', '0']
  else if c = '\x07' then ['\\', 'a']
  else if c = '\x08' then ['\\', 'b']
  else if c = '\t' then ['\\', 't']
  else if c = '\n' then ['\\', 'n']
  else if c = '\x0b' then ['\\', 'v']
  else if c = '\x0c' then ['\\', 'f']
  else if c = '\r' then ['\\', 'r']
  else if c = '\x1b' then ['\\', 'e']
  else if c = '"' then ['\\', '"']
  else if c = '\\' then ['\\', '\\']
  else if c = '\u0085' then ['\\', 'N']
  else if c = '\u2028' then ['\\', 'L']
  else if c = '\u2029' then ['\\', 'P']
  else if isPrintable c then [c]
  else if c.toNat ≤ 0xFF then ['\\', 'x'] ++ upperHex 2 c.toNat
  else ['\\', 'u'] ++ upperHex 4 c.toNat

def doubleQuoted (cs : List Char) : List Char := '"' :: cs.flatMap escape ++ ['"', '\n']

/-- Puts an indentation in front of every line that is not empty; `fresh` says that a line starts
here. -/
def indent (depth : Nat) (fresh : Bool) : List Char → List Char
  | [] => []
  | c :: rest =>
    if isBreak c then c :: indent depth true rest
    else (if fresh then List.replicate (2 * depth) ' ' else []) ++ c :: indent depth false rest

/-- The closing quote stands on the last line, which is indented for it. -/
def singleQuoted (depth : Nat) (cs : List Char) : List Char :=
  let body := cs.flatMap fun c => if c = '\x27' then [c, c] else [c]
  '\x27' :: indent depth false (body ++ ['\x27']) ++ ['\n']

/-- The mark of a literal block: the width of its indentation where its first line does not show
it, and what becomes of line ends at the end of the text. -/
def blockMark (cs : List Char) : List Char :=
  let width := if cs.head?.any fun c => isSpace c || isBreak c then ['2'] else []
  let ends :=
    match cs.reverse.takeWhile isBreak with
    | [] => ['-']
    | [_] => if cs.length = 1 then ['+'] else []
    | _ => ['+']
  ['|'] ++ width ++ ends ++ ['\n']

/-- A literal block with its lines at the given depth. -/
def block (depth : Nat) (cs : List Char) : List Char :=
  blockMark cs ++ indent depth true cs ++ if cs.getLast?.any isBreak then [] else ['\n']

/-- A text as it follows its key, up to the end of its last line. -/
def string (depth : Nat) (s : String) : String :=
  let cs := s.toList
  String.ofList <|
    if isSpecial cs then doubleQuoted cs
    else if cs.contains '\n' then
      if cs.getLast? = some ' ' then doubleQuoted cs else block depth cs
    else if needsQuotes cs then
      if hasPair isBreak isSpace cs then doubleQuoted cs else singleQuoted depth cs
    else cs ++ ['\n']

def value (depth : Nat) : Value → String
  | .text s => string depth s
  | .count n => toString n ++ "\n"
  | .flag b => if b then "true\n" else "false\n"

/-- Fields below `depth` levels of other fields. -/
def fields (depth : Nat) (fs : Fields) : String :=
  String.join (fs.map fun f =>
    String.ofList (List.replicate (2 * depth) ' ') ++ f.1 ++ ": " ++ value (depth + 1) f.2)

def write : Document → String
  | .flat [] => "\x7b\x7d\n"
  | .flat fs => fields 0 fs
  | .sectioned ss => String.join (ss.map fun s => s.1 ++ ":\n" ++ fields 1 s.2)

end ClusterVars.Yaml
