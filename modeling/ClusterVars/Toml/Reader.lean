import ClusterVars.Toml.Node
import ClusterVars.Toml.Quoted
import ClusterVars.Toml.Scalar

/-! Reading TOML. Every reader takes a bound on the number of its steps; the length of the text
is enough, because each step consumes a character. -/
namespace ClusterVars.Toml

/-- Skips blanks, line ends and comments, as between the items of an array. -/
def skipLines (inComment : Bool) : List Char → List Char
  | [] => []
  | '\n' :: rest => skipLines false rest
  | '\r' :: '\n' :: rest => skipLines false rest
  | c :: rest =>
    if inComment then if isPlain c then skipLines true rest else c :: rest
    else if isGap c then skipLines false rest
    else if c = '#' then skipLines true rest
    else c :: rest

def skipGap (cs : List Char) : List Char := cs.dropWhile isGap

/-- Only a comment may stand before the end of a line. -/
def endLine? (cs : List Char) : Option (List Char) :=
  match skipGap cs with
  | [] => some []
  | c :: rest =>
    let rest := if c = '#' then rest.dropWhile isPlain else c :: rest
    if rest.isEmpty then some [] else dropNewline? rest

def isBareKeyChar (c : Char) : Bool := c.isAlphanum || c = '_' || c = '-'

def readKey? (cs : List Char) : Option (String × List Char) :=
  match readLineString? cs with
  | some read => some read
  | none =>
    match cs.takeWhile isBareKeyChar with
    | [] => none
    | key => some (String.ofList key, cs.dropWhile isBareKeyChar)

/-- How many keys a path may have, and how deep arrays and tables in braces may be nested. -/
def maxDepth : Nat := 79

/-- Keys separated by dots: those before the last one, the last one, and the rest. There may be
`room` keys before the last one. -/
def readKeys? : Nat → Nat → List Char → Option (List String × String × List Char)
  | 0, _, _ => none
  | steps + 1, room, cs => do
    let (key, rest) ← readKey? (skipGap cs)
    match skipGap rest, room with
    | '.' :: _, 0 => none
    | '.' :: rest, room + 1 =>
      let (path, last, rest) ← readKeys? steps room rest
      return (key :: path, last, rest)
    | rest, _ => return ([], key, rest)

def readPath? (steps : Nat) (cs : List Char) : Option (List String × String × List Char) :=
  readKeys? steps (maxDepth - 1) cs

/-- Reads a scalar that is not a string. A date may be followed by a blank and a time. -/
def readScalar? (cs : List Char) : Option (Node × List Char) :=
  let token := cs.takeWhile inScalar
  let rest := cs.dropWhile inScalar
  if token = ['t', 'r', 'u', 'e'] then some (.flag true, rest)
  else if token = ['f', 'a', 'l', 's', 'e'] then some (.flag false, rest)
  else match readInteger? token with
    | some n => some (.integer n, rest)
    | none =>
      if isMoment token then
        match rest with
        | ' ' :: more =>
          if dropDate? token = some [] && isTimeWithOffset (more.takeWhile inScalar) then
            some (.other, more.dropWhile inScalar)
          else some (.other, rest)
        | _ => some (.other, rest)
      else if isFloat token then some (.other, rest)
      else none

mutual

/-- Reads a value, which may hold others to the depth that `room` leaves. -/
def readValue? : Nat → Nat → List Char → Option (Node × List Char)
  | 0, _, _ => none
  | steps + 1, room, cs =>
    match cs, room with
    | '[' :: _, 0 => none
    | '[' :: rest, room + 1 =>
      (readItems? steps room rest).map fun (items, rest) => (.list items, rest)
    | '\x7b' :: _, 0 => none
    | '\x7b' :: rest, room + 1 =>
      match skipGap rest with
      | '\x7d' :: rest => some (.table .braces [], rest)
      | rest =>
        (readPairs? steps room [] rest).map fun (entries, rest) => (.table .braces entries, rest)
    | '"' :: _, _ | '\x27' :: _, _ => (readString? cs).map fun (s, rest) => (.text s, rest)
    | _, _ => readScalar? cs

/-- The items of an array, after its opening bracket or a comma. -/
def readItems? : Nat → Nat → List Char → Option (List Node × List Char)
  | 0, _, _ => none
  | steps + 1, room, cs =>
    match skipLines false cs with
    | ']' :: rest => some ([], rest)
    | cs => do
      let (item, rest) ← readValue? steps room cs
      match skipLines false rest with
      | ']' :: rest => return ([item], rest)
      | ',' :: rest =>
        let (items, rest) ← readItems? steps room rest
        return (item :: items, rest)
      | _ => none

/-- The pairs of a table in braces, on one line and without a comma at the end. -/
def readPairs? : Nat → Nat → Entries → List Char → Option (Entries × List Char)
  | 0, _, _, _ => none
  | steps + 1, room, entries, cs => do
    let (path, key, rest) ← readPath? steps cs
    match rest with
    | '=' :: rest =>
      let (node, rest) ← readValue? steps room (skipGap rest)
      let entries ← entries.put? .dottedInBraces key node path
      match skipGap rest with
      | '\x7d' :: rest => return (entries, rest)
      | ',' :: rest => readPairs? steps room entries rest
      | _ => none
    | _ => none

end

/-- Reads lines into the tree; `header` is the path of the table to which pairs belong. -/
def readLines? : Nat → List String → Entries → List Char → Option Entries
  | 0, _, _, _ => none
  | steps + 1, header, root, cs =>
    match skipGap cs with
    | [] => some root
    | '[' :: '[' :: rest => do
      let (path, key, rest) ← readPath? steps rest
      match rest with
      | ']' :: ']' :: rest =>
        let root ← root.within? (Entries.declareNext? key) path
        readLines? steps (path ++ [key]) root (← endLine? rest)
      | _ => none
    | '[' :: rest => do
      let (path, key, rest) ← readPath? steps rest
      match rest with
      | ']' :: rest =>
        let root ← root.within? (Entries.declare? key) path
        readLines? steps (path ++ [key]) root (← endLine? rest)
      | _ => none
    | c :: rest =>
      match endLine? (c :: rest) with
      | some rest => readLines? steps header root rest
      | none => do
        let (path, key, rest) ← readPath? steps (c :: rest)
        match rest with
        | '=' :: rest =>
          let (node, rest) ← readValue? steps maxDepth (skipGap rest)
          let root ← root.within? (Entries.put? .dotted key node path) header
          readLines? steps header root (← endLine? rest)
        | _ => none

/-- The entries of a document, which may start with a byte order mark. -/
def read? (text : String) : Option Entries :=
  let cs :=
    match text.toList with
    | '\uFEFF' :: rest => rest
    | cs => cs
  readLines? (cs.length + 2) [] [] cs

end ClusterVars.Toml
