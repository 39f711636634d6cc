import ClusterVars.Text.Alphanumeric
import ClusterVars.Text.Hex

/-! Which texts are regular expressions. Nothing is matched: a pattern is only checked for being
well formed. Patterns come from between braces, so what takes a closing brace is never complete,
and they may not ask for word boundaries. The readers take a bound on the number of their steps;
the length of the text is enough. -/
namespace ClusterVars.Pattern
open Text

/-- The letters for controls. -/
def control? (c : Char) : Option Char :=
  if c = 'a' then some '\x07'
  else if c = 'f' then some '\x0c'
  else if c = 'n' then some '\n'
  else if c = 'r' then some '\r'
  else if c = 't' then some '\t'
  else if c = 'v' then some '\x0b'
  else none

def codePoint? (width : Nat) (cs : List Char) : Option (Option Char × List Char) :=
  if cs.length < width then none
  else match unhex? (cs.take width) with
    | some n => if n.isValidChar then some (some (Char.ofNat n), cs.drop width) else none
    | none => none

/-- Reads on after a backslash: a character, or a set of characters, which counts as `none`. -/
def readEscape? : List Char → Option (Option Char × List Char)
  | [] => none
  | 'x' :: rest => codePoint? 2 rest
  | 'u' :: rest => codePoint? 4 rest
  | 'U' :: rest => codePoint? 8 rest
  | c :: rest =>
    if c = 'p' || c = 'P' then
      match rest with
      | category :: rest =>
        if "LMNPSZC".toList.contains category.toUpper then some (none, rest) else none
      | [] => none
    else if "dswDSW".toList.contains c then some (none, rest)
    else match control? c with
      | some control => some (some control, rest)
      | none =>
        if c.toNat < 0x80 && !c.isAlphanum && c ≠ '<' && c ≠ '>' then some (some c, rest) else none

/-- What follows the start of a class: a negation, and hyphens or one closing bracket that stand
for themselves. -/
def dropClassStart (cs : List Char) : List Char :=
  match if cs.head? = some '^' then cs.tail else cs with
  | ']' :: rest => rest
  | rest => rest.dropWhile (· = '-')

def classNames : List String :=
  ["alnum", "alpha", "ascii", "blank", "cntrl", "digit", "graph", "lower", "print", "punct",
    "space", "upper", "word", "xdigit"]

/-- What follows a named class inside a class, after its opening bracket. -/
def dropNamedClass? : List Char → Option (List Char)
  | ':' :: rest =>
    let rest := if rest.head? = some '^' then rest.tail else rest
    match rest.dropWhile (· ≠ ':') with
    | ':' :: ']' :: after =>
      if classNames.contains (String.ofList (rest.takeWhile (· ≠ ':'))) then some after else none
    | _ => none
  | _ => none

def readClassItem? : List Char → Option (Option Char × List Char)
  | [] => none
  | '\\' :: rest => readEscape? rest
  | c :: rest => some (some c, rest)

/-- A range has characters at both ends, in order. -/
def isRange : Option Char → Option Char → Bool
  | some low, some high => low ≤ high
  | _, _ => false

/-- Reads on inside a class, with `depth` more classes around it, up to the end of the outermost. -/
def readClass? : Nat → Nat → List Char → Option (List Char)
  | 0, _, _ => none
  | steps + 1, depth, cs =>
    match cs with
    | [] => none
    | ']' :: rest => if depth = 0 then some rest else readClass? steps (depth - 1) rest
    | '[' :: rest =>
      match dropNamedClass? rest with
      | some rest => readClass? steps depth rest
      | none => readClass? steps (depth + 1) (dropClassStart rest)
    | '&' :: '&' :: rest => readClass? steps depth rest
    | '-' :: '-' :: rest => readClass? steps depth rest
    | '~' :: '~' :: rest => readClass? steps depth rest
    | _ => do
      let (low, rest) ← readClassItem? cs
      match rest with
      | '-' :: c :: more =>
        if c = ']' || c = '-' then readClass? steps depth rest
        else do
          let (high, rest) ← readClassItem? (c :: more)
          if isRange low high then readClass? steps depth rest else none
      | _ => readClass? steps depth rest

/-- The name of a group. -/
def isGroupName (cs : List Char) : Bool :=
  match cs with
  | [] => false
  | c :: rest =>
    (c = '_' || isAlphanumeric c && !c.isDigit)
      && rest.all fun c => c = '_' || c = '.' || c = '[' || c = ']' || isAlphanumeric c

/-- Flags, each once, of which those after a hyphen are switched off. -/
def isFlags (cs : List Char) : Bool :=
  cs.all ("imsUuRx-".toList.contains ·) && decide cs.Nodup && cs.getLast? ≠ some '-'

/-- Reads on where `depth` groups are open; `repeatable` says that the text before ends in
something that can be repeated, and `names` are the groups that have a name. -/
def isPatternFrom : Nat → Nat → Bool → List (List Char) → List Char → Bool
  | 0, _, _, _, _ => false
  | steps + 1, depth, repeatable, names, cs =>
    let named (rest : List Char) : Bool :=
      let name := rest.takeWhile (· ≠ '>')
      match rest.dropWhile (· ≠ '>') with
      | _ :: rest =>
        isGroupName name && !names.contains name
          && isPatternFrom steps (depth + 1) false (name :: names) rest
      | [] => false
    match cs with
    | [] => depth = 0
    | '(' :: '?' :: 'P' :: '<' :: rest => named rest
    | '(' :: '?' :: '<' :: rest => named rest
    | '(' :: '?' :: rest =>
      let isFlag (c : Char) : Bool := c ≠ ':' && c ≠ ')'
      let flags := rest.takeWhile isFlag
      match rest.dropWhile isFlag with
      | ':' :: rest => isFlags flags && isPatternFrom steps (depth + 1) false names rest
      | _ :: rest => isFlags flags && !flags.isEmpty && isPatternFrom steps depth false names rest
      | [] => false
    | '(' :: rest => isPatternFrom steps (depth + 1) false names rest
    | ')' :: rest => 0 < depth && isPatternFrom steps (depth - 1) true names rest
    | '|' :: rest => isPatternFrom steps depth false names rest
    | '[' :: rest =>
      match readClass? steps 0 (dropClassStart rest) with
      | some rest => isPatternFrom steps depth true names rest
      | none => false
    | '\\' :: 'A' :: rest => isPatternFrom steps depth true names rest
    | '\\' :: 'z' :: rest => isPatternFrom steps depth true names rest
    | '\\' :: rest =>
      match readEscape? rest with
      | some (_, rest) => isPatternFrom steps depth true names rest
      | none => false
    | c :: rest =>
      if c = '*' || c = '+' || c = '?' then
        let isLazy : Bool := rest.head? = some '?'
        repeatable && isPatternFrom steps depth true names (if isLazy then rest.tail else rest)
      else c ≠ '\x7b' && isPatternFrom steps depth true names rest

end Pattern

/-- Whether a text is a pattern. -/
def isPattern (cs : List Char) : Bool := Pattern.isPatternFrom (cs.length + 1) 0 false [] cs

end ClusterVars
