import ClusterVars.Text.Groups

/-! Integers as they are written: an optional sign and groups of decimal digits joined by single
underscores. A numeral keeps its digits, leading zeros included, so it has no largest value; the
integer it denotes and the bounded count it can stand for are functions of it. -/
namespace ClusterVars
open Text

structure Numeral where
  negative : Bool
  digits : List Char
  deriving DecidableEq, Repr

namespace Numeral

def readDigits? (cs : List Char) : Option (List Char) := ungroup? Char.isDigit cs

def read? : List Char → Option Numeral
  | [] => none
  | c :: rest =>
    if c = '-' then (readDigits? rest).map (⟨true, ·⟩)
    else if c = '+' then (readDigits? rest).map (⟨false, ·⟩)
    else (readDigits? (c :: rest)).map (⟨false, ·⟩)

def toInt (n : Numeral) : Int :=
  let magnitude : Int := Nat.ofDigitChars 10 n.digits 0
  if n.negative then -magnitude else magnitude

/-- Appends decimal digits to a number and gives up once it passes the limit. -/
def extend? (limit : Nat) : Nat → List Char → Option Nat
  | n, [] => some n
  | n, c :: rest =>
    let next := 10 * n + (c.toNat - '0'.toNat)
    if next ≤ limit then extend? limit next rest else none

/-- The positive number up to `limit` that a numeral stands for. -/
def count? (limit : Nat) (n : Numeral) : Option Nat :=
  if n.negative then none else (extend? limit 0 n.digits).filter (0 < ·)

def ofNat (n : Nat) : Numeral := ⟨false, Nat.toDigits 10 n⟩

def text (n : Numeral) : String :=
  String.ofList (if n.negative then '-' :: n.digits else n.digits)

end Numeral
end ClusterVars
