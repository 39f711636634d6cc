import ClusterVars.Numeral
import ClusterVars.Quoted
import ClusterVars.Text.Blank

/-! Literals, the right-hand sides of assignments as they are written. -/
namespace ClusterVars
open Text

inductive Literal
  | text (s : String)
  | integer (n : Numeral)
  | flag (b : Bool)
  | nil
  deriving DecidableEq, Repr

namespace Literal

/-- A short description: the kind of literal and its written form. -/
def describe : Literal → String
  | .text s => "string " ++ String.ofList (quoted s.toList)
  | .integer n => "integer " ++ n.text
  | .flag b => "boolean " ++ (if b then "true" else "false")
  | .nil => "nil"

/-- An unquoted token ends at white space or a comment. -/
def inToken (c : Char) : Bool := !(isBlank c || c = '#')

def ofToken (token : List Char) : Except LineFault Literal :=
  if token = ['t', 'r', 'u', 'e'] then .ok (.flag true)
  else if token = ['f', 'a', 'l', 's', 'e'] then .ok (.flag false)
  else if token = ['n', 'i', 'l'] then .ok .nil
  else match Numeral.read? token with
    | some n => .ok (.integer n)
    | none => .error (.unrecognised (String.ofList token))

def readText (quote : Quote) (input : List Char) : Except LineFault (Literal × List Char) :=
  match quote.readBody input with
  | .error fault => .error fault
  | .ok (body, rest) => .ok (.text (String.ofList body), rest)

/-- Reads a literal at the start of the input and returns what follows it. -/
def read (input : List Char) : Except LineFault (Literal × List Char) :=
  match input with
  | [] => .error .missingValue
  | c :: rest =>
    if c = '#' then .error .missingValue
    else if c = Quote.double.mark then readText .double rest
    else if c = Quote.single.mark then readText .single rest
    else match ofToken (input.takeWhile inToken) with
      | .error fault => .error fault
      | .ok literal => .ok (literal, input.dropWhile inToken)

end Literal
end ClusterVars
