import ClusterVars.Literal

/-! One line of a variable file: blank, a comment, or `$name = literal` or `$name ||= literal`,
possibly followed by a comment. -/
namespace ClusterVars
open Text

inductive Operator
  /-- Sets or clears the name. -/
  | assign
  /-- Sets the name only while it is unset. -/
  | fill
  deriving DecidableEq, Repr

def Operator.text : Operator → String
  | .assign => "="
  | .fill => "||="

structure Assignment where
  name : String
  operator : Operator
  value : Literal
  deriving DecidableEq, Repr

namespace Assignment

def isNameChar (c : Char) : Bool := c.isAlphanum || c = '_'

/-- A name has at least one character and does not start with a digit. -/
def isName : List Char → Bool
  | [] => false
  | c :: rest => !c.isDigit && (c :: rest).all isNameChar

/-- An equality sign directly followed by another one is no operator. -/
def readOperator? : List Char → Option (Operator × List Char)
  | '|' :: '|' :: '=' :: rest => some (.fill, rest)
  | '=' :: rest => if rest.head? = some '=' then none else some (.assign, rest)
  | _ => none

/-- Only a comment may follow the value. -/
def isEnd (rest : List Char) : Bool :=
  match rest with
  | [] => true
  | c :: _ => c = '#'

/-- Reads what follows the dollar sign of a trimmed line. -/
def readNamed (input : List Char) : Except LineFault Assignment :=
  let name := input.takeWhile isNameChar
  if !isName name then .error (.invalidName (String.ofList name))
  else match readOperator? (trimStart (input.dropWhile isNameChar)) with
    | none => .error (.missingOperator (String.ofList name))
    | some (operator, rest) =>
      match Literal.read (trimStart rest) with
      | .error fault => .error fault
      | .ok (value, rest) =>
        if isEnd (trimStart rest) then .ok ⟨String.ofList name, operator, value⟩
        else .error (.trailing (String.ofList (trimStart rest)))

/-- Reads a line; blank lines and comments hold no assignment. -/
def read (line : List Char) : Except LineFault (Option Assignment) :=
  match trim line with
  | [] => .ok none
  | c :: rest =>
    if c = '#' then .ok none
    else if c = '$' then (readNamed rest).map some
    else .error (.missingName (String.ofList (c :: rest)))

end Assignment
end ClusterVars
