/-! Decimal fractions as they are written, and which of them a double can hold. -/
namespace ClusterVars

/-- The number `digits · 10 ^ exponent`. -/
structure Decimal where
  digits : List Char
  exponent : Int
  deriving DecidableEq, Repr

namespace Decimal

/-- Reads a sign, which may be missing. -/
def dropSign : List Char → List Char
  | [] => []
  | c :: rest => if c = '+' || c = '-' then rest else c :: rest

def readInt? (cs : List Char) : Option Int :=
  let digits := dropSign cs
  if digits.isEmpty || !digits.all Char.isDigit then none
  else
    let n : Int := Nat.ofDigitChars 10 digits 0
    some (if cs.head? = some '-' then -n else n)

/-- Reads digits with an optional point, which may stand at either end, and an optional
exponent. -/
def read? (cs : List Char) : Option Decimal :=
  let whole := cs.takeWhile Char.isDigit
  let afterWhole := cs.dropWhile Char.isDigit
  let (fraction, rest) :=
    match afterWhole with
    | '.' :: rest => (rest.takeWhile Char.isDigit, rest.dropWhile Char.isDigit)
    | _ => ([], afterWhole)
  if whole.isEmpty && fraction.isEmpty then none
  else
    let shift : Int := fraction.length
    match rest with
    | [] => some ⟨whole ++ fraction, -shift⟩
    | c :: exponent =>
      if c = 'e' || c = 'E' then
        (readInt? exponent).map fun e => ⟨whole ++ fraction, e - shift⟩
      else none

/-- The least number that rounds to infinity: half a unit above the largest finite double. -/
def doubleLimit : Nat := Nat.pow 2 1024 - Nat.pow 2 970

/-- Rounding to the nearest double gives a finite one. Numbers of at most 308 digits before the
point always do and numbers of more than 309 never; only those between are compared. -/
def isFiniteDouble (d : Decimal) : Bool :=
  let digits := d.digits.dropWhile (· = '0')
  let n := Nat.ofDigitChars 10 digits 0
  let size : Int := digits.length + d.exponent
  if digits.isEmpty then true
  else if size ≤ 308 then true
  else if 310 ≤ size then false
  else if 0 ≤ d.exponent then n * Nat.pow 10 d.exponent.toNat < doubleLimit
  else n < doubleLimit * Nat.pow 10 (-d.exponent).toNat

end Decimal
end ClusterVars
