/-! TOML values as a tree, and the rules by which headers and dotted keys extend it. A table knows
how it came about, because that decides what may still be added to it. -/
namespace ClusterVars.Toml

inductive Origin
  /-- Declared by a header of its own. -/
  | header
  /-- Named on the way to another header. -/
  | implied
  /-- Named by a dotted key. -/
  | dotted
  /-- Written in braces, and closed for good. -/
  | braces
  /-- Named by a dotted key in braces. -/
  | dottedInBraces
  deriving DecidableEq, Repr

/-- Whether the table is part of a value, and not of the document's own tables. -/
def Origin.isInline : Origin → Bool
  | .braces | .dottedInBraces => true
  | .header | .implied | .dotted => false

inductive Node
  | text (s : String)
  | integer (n : Int)
  | flag (b : Bool)
  /-- A float, a date or a time. -/
  | other
  | list (items : List Node)
  | table (origin : Origin) (entries : List (String × Node))
  /-- Tables that share one header in double brackets. -/
  | tables (items : List Node)
  deriving Repr

abbrev Entries := List (String × Node)

namespace Entries

/-- Replaces the entry of that key, or adds one at the end. -/
def set (entries : Entries) (key : String) (node : Node) : Entries :=
  if entries.any (·.1 = key) then
    entries.map fun entry => if entry.1 = key then (key, node) else entry
  else entries ++ [(key, node)]

/-- Edits the last of some tables. -/
def editLast? (edit : Entries → Option Entries) (items : List Node) : Option Node :=
  match items.getLast? with
  | some (.table origin entries) =>
    (edit entries).map fun edited => .tables (items.dropLast ++ [.table origin edited])
  | _ => none

/-- Edits the table to which a header's keys lead; tables on the way come about as needed. -/
def within? (edit : Entries → Option Entries) : List String → Entries → Option Entries
  | [], entries => edit entries
  | key :: rest, entries =>
    match entries.lookup key with
    | none => (within? edit rest []).map fun inner => entries.set key (.table .implied inner)
    | some (.table origin inner) =>
      if origin = .braces then none
      else (within? edit rest inner).map fun inner => entries.set key (.table origin inner)
    | some (.tables items) =>
      (editLast? (within? edit rest) items).map fun node => entries.set key node
    | some _ => none

/-- Adds a value under dotted keys, which make tables of the given origin. Only such tables can be
extended so. -/
def put? (made : Origin) (key : String) (node : Node) : List String → Entries → Option Entries
  | [], entries => if entries.any (·.1 = key) then none else some (entries ++ [(key, node)])
  | first :: rest, entries =>
    match entries.lookup first with
    | none => (put? made key node rest []).map fun inner => entries.set first (.table made inner)
    | some (.table origin inner) =>
      if origin = made || origin = .implied && !rest.isEmpty then
        (put? made key node rest inner).map fun inner => entries.set first (.table origin inner)
      else none
    | some (.tables items) =>
      if rest.isEmpty then none
      else (editLast? (put? made key node rest) items).map fun node => entries.set first node
    | some _ => none

/-- Declares a table, once; it may have been implied before, and then it moves to the end. -/
def declare? (key : String) (entries : Entries) : Option Entries :=
  match entries.lookup key with
  | none => some (entries ++ [(key, .table .header [])])
  | some (.table .implied inner) =>
    some (entries.filter (·.1 ≠ key) ++ [(key, .table .header inner)])
  | some _ => none

/-- Declares one more of some tables. -/
def declareNext? (key : String) (entries : Entries) : Option Entries :=
  match entries.lookup key with
  | none => some (entries ++ [(key, .tables [.table .header []])])
  | some (.tables items) => some (entries.set key (.tables (items ++ [.table .header []])))
  | some _ => none

end Entries
end ClusterVars.Toml
