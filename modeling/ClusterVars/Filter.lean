import ClusterVars.Decimal
import ClusterVars.Journal
import ClusterVars.Text.Pattern

/-! Filters of the log. A filter is written as directives between commas, each of which gives the
level up to which notices are shown: all of them, those of a part of the program, or those with a
certain field. The most specific directive about a notice decides. -/
namespace ClusterVars
open Text

structure Directive where
  /-- How the names of the parts begin that it is about. -/
  part : List Char
  field : Option String
  /-- It asks for a span or for the value of a field, so it is about no notice. -/
  isNarrow : Bool
  rank : Nat
  deriving DecidableEq, Repr

namespace Directive

def about (d : Directive) (n : Notice) : Bool :=
  !d.isNarrow && d.part.isPrefixOf n.part.toList && d.field.all n.fields.contains

/-- The longer name of a part is the more specific one, then a field, then the later field. -/
def yieldsTo (d e : Directive) : Bool :=
  d.part.length < e.part.length
    || d.part.length = e.part.length &&
      match d.field, e.field with
      | none, _ => true
      | some _, none => false
      | some a, some b => decide (a ≤ b)

def canStart (c : Char) : Bool :=
  c = '[' || c = '-' || c = ':' || c = '_' || isAlphanumeric c

/-- A level that is left out after its mark stands for everything. -/
def levelAfterMark? (cs : List Char) : Option Nat :=
  if cs.isEmpty then some Level.trace else Level.rankOfName? cs

/-- The value of a field is a pattern, or a number with a plus sign. -/
def isValue (cs : List Char) : Bool :=
  isPattern cs ||
    match cs with
    | '+' :: rest =>
      (Decimal.read? rest).isSome
        || ["inf", "infinity", "nan"].contains (String.ofList rest).toLower
    | _ => false

/-- Reads a field with an optional value, which ends where the next value would start. The answer
is its name and whether it has a value. -/
def readField? (cs : List Char) : Option (String × Bool) :=
  let name := String.ofList (cs.takeWhile (· ≠ '='))
  match cs, cs.dropWhile (· ≠ '=') with
  | [], _ => none
  | _, [] => some (name, false)
  | _, _ :: rest => if isValue (rest.takeWhile (· ≠ '=')) then some (name, true) else none

/-- Reads from an opening bracket on: a span, or a field in braces, which a span may precede. The
answer is whether that is narrow, the field, and the rest. -/
def readBrackets? (cs : List Char) : Option (Bool × Option String × List Char) :=
  let inSpan (c : Char) : Bool := c ≠ ']' && c ≠ '\x7b'
  let span := cs.takeWhile inSpan
  match cs.dropWhile inSpan with
  | ']' :: rest => some (true, none, rest)
  | '\x7b' :: rest =>
    match readField? (rest.takeWhile (· ≠ '\x7d')), rest.dropWhile (· ≠ '\x7d') with
    | some (name, hasValue), '\x7d' :: ']' :: rest =>
      some (!span.isEmpty || hasValue, some name, rest)
    | _, _ => none
  | _ => none

/-- Reads one directive. Blanks in front belong to the name of a part, and then no level can
follow; blanks at the end belong to the name or level that they follow. -/
def read? (cs : List Char) : Option Directive :=
  let text := trimStart cs
  let isIndented : Bool := cs.head?.any isBlank
  let inName (c : Char) : Bool := c ≠ '=' && c ≠ '['
  let part := cs.takeWhile inName
  if !text.head?.any canStart then none
  else match cs.dropWhile inName with
    | [] =>
      match Level.rankOfName? cs with
      | some rank => some ⟨[], none, false, rank⟩
      | none => some ⟨cs, none, false, Level.trace⟩
    | '[' :: inside => do
      let (isNarrow, field, rest) ← readBrackets? inside
      match rest with
      | '=' :: level =>
        if isIndented then none
        else (levelAfterMark? level).map fun rank => ⟨part, field, isNarrow, rank⟩
      | _ =>
        if rest.all isBlank then some ⟨part, field, isNarrow, Level.trace⟩ else none
    | _ :: level =>
      if isIndented then none
      else (levelAfterMark? level).map fun rank => ⟨part, none, false, rank⟩

end Directive

structure Filter where
  directives : List Directive
  deriving DecidableEq, Repr

namespace Filter

def upTo (rank : Nat) : Filter := ⟨[⟨[], none, false, rank⟩]⟩

/-- Reads a filter. One without directives shows errors. -/
def read? (text : String) : Option Filter := do
  let directives ← ((text.toList.splitOn ',').filter (!·.isEmpty)).mapM Directive.read?
  return if directives.isEmpty then upTo Level.error.rank else ⟨directives⟩

/-- The directive that decides about a notice; of equally specific ones, the last. -/
def deciding? (f : Filter) (n : Notice) : Option Directive :=
  (f.directives.filter (·.about n)).foldl
    (fun best d => if best.all (·.yieldsTo d) then some d else best) none

def shows (f : Filter) (n : Notice) : Bool :=
  (f.deciding? n).any fun d => n.level.rank ≤ d.rank

/-- The filter that the user names, if it can be read; otherwise it is up to the verbosity. -/
def choose (named : Option String) (verbose : Bool) : Filter :=
  (named.bind read?).getD (upTo (if verbose then Level.info.rank else Level.warn.rank))

end Filter
end ClusterVars
