import ClusterVars.Quoted

/-! Values that options hold, and the literal form in which they are written back. -/
namespace ClusterVars

inductive Value
  | text (s : String)
  | count (n : Nat)
  | flag (b : Bool)
  deriving DecidableEq, Repr

namespace Value

/-- The literal that stands for the value, on one line. -/
def chars : Value → List Char
  | .text s => quoted s.toList
  | .count n => Nat.toDigits 10 n
  | .flag true => ['t', 'r', 'u', 'e']
  | .flag false => ['f', 'a', 'l', 's', 'e']

def shown (v : Value) : String := String.ofList v.chars

def text? : Value → Option String
  | .text s => some s
  | _ => none

def count? : Value → Option Nat
  | .count n => some n
  | _ => none

def flag? : Value → Option Bool
  | .flag b => some b
  | _ => none

end Value
end ClusterVars
