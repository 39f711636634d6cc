import ClusterVars.Text.Hex

/-! The four kinds of TOML strings, read up to their closing quotes. -/
namespace ClusterVars.Toml
open Text

/-- Every character but controls stands for itself. -/
def isPlain (c : Char) : Bool := c = '\t' || 0x20 ≤ c.toNat && c.toNat ≠ 0x7F

def isGap (c : Char) : Bool := c = ' ' || c = '\t'

def dropNewline? : List Char → Option (List Char)
  | '\n' :: rest => some rest
  | '\r' :: '\n' :: rest => some rest
  | _ => none

def simpleEscape? (c : Char) : Option Char :=
  if c = 'b' then some '\x08'
  else if c = 't' then some '\t'
  else if c = 'n' then some '\n'
  else if c = 'f' then some '\x0c'
  else if c = 'r' then some '\r'
  else if c = '"' || c = '\\' then some c
  else none

/-- The character with the code point that the digits give. -/
def codePoint? (digits : List Char) : Option Char :=
  (unhex? digits).bind fun n => if n.isValidChar then some (Char.ofNat n) else none

def readBasic : List Char → Option (List Char × List Char)
  | [] => none
  | '"' :: rest => some ([], rest)
  | '\\' :: 'u' :: a :: b :: c :: d :: rest => do
    let escaped ← codePoint? [a, b, c, d]
    let (body, rest) ← readBasic rest
    return (escaped :: body, rest)
  | '\\' :: 'U' :: a :: b :: c :: d :: e :: f :: g :: h :: rest => do
    let escaped ← codePoint? [a, b, c, d, e, f, g, h]
    let (body, rest) ← readBasic rest
    return (escaped :: body, rest)
  | '\\' :: c :: rest => do
    let escaped ← simpleEscape? c
    let (body, rest) ← readBasic rest
    return (escaped :: body, rest)
  | c :: rest =>
    if isPlain c then do
      let (body, rest) ← readBasic rest
      return (c :: body, rest)
    else none

def readLiteral : List Char → Option (List Char × List Char)
  | [] => none
  | '\x27' :: rest => some ([], rest)
  | c :: rest =>
    if isPlain c then do
      let (body, rest) ← readLiteral rest
      return (c :: body, rest)
    else none

/-- After three closing quotes, up to two more belong to the text before them. -/
def closeMulti (quote : Char) : List Char → List Char × List Char
  | [] => ([], [])
  | a :: rest =>
    if a ≠ quote then ([], a :: rest)
    else if rest.head? = some quote then ([quote, quote], rest.tail)
    else ([quote], rest)

/-- While `skipping`, blanks and line ends after a backslash at the end of a line are left out. -/
def readMultiBasic (skipping : Bool) : List Char → Option (List Char × List Char)
  | [] => none
  | '\r' :: '\n' :: rest =>
    if skipping then readMultiBasic true rest
    else do
      let (body, rest) ← readMultiBasic false rest
      return ('\n' :: body, rest)
  | '\n' :: rest =>
    if skipping then readMultiBasic true rest
    else do
      let (body, rest) ← readMultiBasic false rest
      return ('\n' :: body, rest)
  | '"' :: '"' :: '"' :: rest => some (closeMulti '"' rest)
  | '\\' :: 'u' :: a :: b :: c :: d :: rest => do
    let escaped ← codePoint? [a, b, c, d]
    let (body, rest) ← readMultiBasic false rest
    return (escaped :: body, rest)
  | '\\' :: 'U' :: a :: b :: c :: d :: e :: f :: g :: h :: rest => do
    let escaped ← codePoint? [a, b, c, d, e, f, g, h]
    let (body, rest) ← readMultiBasic false rest
    return (escaped :: body, rest)
  | '\\' :: c :: rest =>
    if (dropNewline? ((c :: rest).dropWhile isGap)).isSome then
      if c = '\r' then readMultiBasic true rest.tail else readMultiBasic true rest
    else do
      let escaped ← simpleEscape? c
      let (body, rest) ← readMultiBasic false rest
      return (escaped :: body, rest)
  | c :: rest =>
    if skipping && isGap c then readMultiBasic true rest
    else if isPlain c then do
      let (body, rest) ← readMultiBasic false rest
      return (c :: body, rest)
    else none
termination_by cs => cs.length
decreasing_by all_goals (simp_wf; try omega)

def readMultiLiteral : List Char → Option (List Char × List Char)
  | [] => none
  | '\r' :: '\n' :: rest => do
    let (body, rest) ← readMultiLiteral rest
    return ('\n' :: body, rest)
  | '\x27' :: '\x27' :: '\x27' :: rest => some (closeMulti '\x27' rest)
  | c :: rest =>
    if c = '\n' || isPlain c then do
      let (body, rest) ← readMultiLiteral rest
      return (c :: body, rest)
    else none

/-- A line end right after three opening quotes is not part of the text. -/
def afterOpening (cs : List Char) : List Char := (dropNewline? cs).getD cs

/-- Reads a string on one line, quotes included. -/
def readLineString? : List Char → Option (String × List Char)
  | '"' :: rest => (readBasic rest).map fun (body, rest) => (String.ofList body, rest)
  | '\x27' :: rest => (readLiteral rest).map fun (body, rest) => (String.ofList body, rest)
  | _ => none

/-- Reads a string of any kind. -/
def readString? : List Char → Option (String × List Char)
  | '"' :: '"' :: '"' :: rest =>
    (readMultiBasic false (afterOpening rest)).map fun (body, rest) => (String.ofList body, rest)
  | '\x27' :: '\x27' :: '\x27' :: rest =>
    (readMultiLiteral (afterOpening rest)).map fun (body, rest) => (String.ofList body, rest)
  | cs => readLineString? cs

end ClusterVars.Toml
