import ClusterVars.Decimal
import ClusterVars.Text.Groups
import ClusterVars.Text.Hex

/-! TOML scalars other than strings: integers of 64 bits, floats, dates and times. Integers are
read for their value; of floats and dates it is only decided whether they are well formed. -/
namespace ClusterVars.Toml
open Text

/-- The characters of which such scalars are made. -/
def inScalar (c : Char) : Bool :=
  c.isAlphanum || c = '+' || c = '-' || c = '_' || c = '.' || c = ':'

def radixDigits? (radix : Nat) (cs : List Char) : Option Int := do
  let digits ← ungroup? (fun c => (unhex? [c]).any (· < radix)) cs
  return Int.ofNat (digits.foldl (fun n c => radix * n + (unhex? [c]).getD 0) 0)

/-- Grouped decimal digits without a leading zero. -/
def decimalDigits? (cs : List Char) : Option (List Char) := do
  let digits ← ungroup? Char.isDigit cs
  if digits.head? = some '0' && cs.length ≠ 1 then none else return digits

/-- Decimal digits with an optional sign. -/
def readDecimal? (token : List Char) : Option Int := do
  let digits ← decimalDigits? (Decimal.dropSign token)
  let n : Int := Nat.ofDigitChars 10 digits 0
  return if token.head? = some '-' then -n else n

/-- An integer in any notation, if it has no more than 64 bits. -/
def readInteger? (token : List Char) : Option Int :=
  let n? :=
    match token with
    | '0' :: 'x' :: digits => radixDigits? 16 digits
    | '0' :: 'o' :: digits => radixDigits? 8 digits
    | '0' :: 'b' :: digits => radixDigits? 2 digits
    | _ => readDecimal? token
  n?.filter fun n => -9223372036854775808 ≤ n && n ≤ 9223372036854775807

/-- A positive float has to be finite once it is rounded to a double. -/
def isFloat (token : List Char) : Bool :=
  let unsigned := Decimal.dropSign token
  let inDigits (c : Char) : Bool := c.isDigit || c = '_'
  let whole := unsigned.takeWhile inDigits
  let afterWhole := unsigned.dropWhile inDigits
  let fraction := afterWhole.tail.takeWhile inDigits
  let hasFraction := afterWhole.head? = some '.'
  let afterFraction := if hasFraction then afterWhole.tail.dropWhile inDigits else afterWhole
  let isExponent : Bool :=
    match afterFraction with
    | c :: exponent =>
      (c = 'e' || c = 'E') && (ungroup? Char.isDigit (Decimal.dropSign exponent)).isSome
    | [] => hasFraction
  let finite : Bool :=
    match Decimal.read? (unsigned.filter (· ≠ '_')) with
    | some d => d.isFiniteDouble || token.head? = some '-'
    | none => false
  unsigned = ['i', 'n', 'f'] || unsigned = ['n', 'a', 'n']
    || (decimalDigits? whole).isSome
      && (!hasFraction || (ungroup? Char.isDigit fraction).isSome)
      && isExponent && finite

/-- A number of two digits within bounds. -/
def isPair (low high : Nat) (a b : Char) : Bool :=
  a.isDigit && b.isDigit
    && low ≤ Nat.ofDigitChars 10 [a, b] 0 && Nat.ofDigitChars 10 [a, b] 0 ≤ high

def monthLength (year month : Nat) : Nat :=
  if month = 2 then
    if year % 4 = 0 && (year % 100 ≠ 0 || year % 400 = 0) then 29 else 28
  else if month = 4 || month = 6 || month = 9 || month = 11 then 30
  else 31

/-- What follows a date, if the text starts with one. -/
def dropDate? : List Char → Option (List Char)
  | a :: b :: c :: d :: '-' :: e :: f :: '-' :: g :: h :: rest =>
    if [a, b, c, d].all Char.isDigit && isPair 1 12 e f
        && isPair 1 (monthLength (Nat.ofDigitChars 10 [a, b, c, d] 0)
          (Nat.ofDigitChars 10 [e, f] 0)) g h then
      some rest
    else none
  | _ => none

/-- What follows a time of day, if the text starts with one. -/
def dropTime? : List Char → Option (List Char)
  | a :: b :: ':' :: c :: d :: ':' :: e :: f :: rest =>
    if isPair 0 23 a b && isPair 0 59 c d && isPair 0 60 e f then
      match rest with
      | '.' :: fraction =>
        if fraction.head?.any Char.isDigit then some (fraction.dropWhile Char.isDigit) else none
      | _ => some rest
    else none
  | _ => none

def isOffset : List Char → Bool
  | [] => true
  | [c] => c = 'Z' || c = 'z'
  | [sign, a, b, ':', c, d] => (sign = '+' || sign = '-') && isPair 0 23 a b && isPair 0 59 c d
  | _ => false

def isTime (token : List Char) : Bool := dropTime? token = some []

def isTimeWithOffset (token : List Char) : Bool := (dropTime? token).any isOffset

/-- A date, a time of day, or both joined by a letter. -/
def isMoment (token : List Char) : Bool :=
  isTime token
    || match dropDate? token with
      | some [] => true
      | some (c :: rest) => (c = 'T' || c = 't') && isTimeWithOffset rest
      | none => false

end ClusterVars.Toml
