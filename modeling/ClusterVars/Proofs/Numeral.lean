import ClusterVars.Numeral
import ClusterVars.Proofs.Text.Groups

/-! Numerals and the numbers they stand for. The reader of counts gives up as soon as it passes its
limit; it still decides by the value of all digits, since a number never shrinks as digits are
appended. -/
namespace ClusterVars
open Text

namespace Numeral

theorem le_ofDigitChars (cs : List Char) (n : Nat) : n ≤ Nat.ofDigitChars 10 cs n := by
  induction cs generalizing n with
  | nil => exact Nat.le_refl n
  | cons c cs ih =>
    rw [Nat.ofDigitChars_cons]
    have grown := ih (10 * n + (c.toNat - '0'.toNat))
    omega

theorem extend?_eq (limit : Nat) (cs : List Char) {n : Nat} (small : n ≤ limit) :
    extend? limit n cs =
      if Nat.ofDigitChars 10 cs n ≤ limit then some (Nat.ofDigitChars 10 cs n) else none := by
  induction cs generalizing n with
  | nil => simp [extend?, small]
  | cons c cs ih =>
    rw [extend?, Nat.ofDigitChars_cons]
    generalize 10 * n + (c.toNat - '0'.toNat) = next
    by_cases fits : next ≤ limit
    · simp only [fits, if_true]
      exact ih fits
    · have grown := le_ofDigitChars cs next
      have tooLarge : ¬ Nat.ofDigitChars 10 cs next ≤ limit := by omega
      simp only [fits, tooLarge, if_false]

theorem count?_eq (limit : Nat) (n : Numeral) :
    n.count? limit =
      let value := Nat.ofDigitChars 10 n.digits 0
      if n.negative = false ∧ 0 < value ∧ value ≤ limit then some value else none := by
  simp only [count?, extend?_eq limit _ (Nat.zero_le limit)]
  generalize Nat.ofDigitChars 10 n.digits 0 = value
  cases n.negative with
  | true => simp
  | false =>
    by_cases small : value ≤ limit
    · simp [small, Option.filter_some]
    · simp [small]

theorem count?_ofNat (limit n : Nat) :
    (ofNat n).count? limit = if 0 < n ∧ n ≤ limit then some n else none := by
  simp [count?_eq, ofNat]

theorem read?_toDigits (n : Nat) : read? (Nat.toDigits 10 n) = some (ofNat n) := by
  have digits : ∀ c ∈ Nat.toDigits 10 n, c.isDigit = true := fun c member =>
    Nat.isDigit_of_mem_toDigits (by decide) (by decide) member
  have ungrouped := ungroup?_of_digits Nat.toDigits_ne_nil digits Nat.underscore_not_in_toDigits
  cases spelled : Nat.toDigits 10 n with
  | nil => exact absurd spelled Nat.toDigits_ne_nil
  | cons c rest =>
    rw [spelled] at digits ungrouped
    have digit : c.isDigit = true := digits c (by simp)
    have noMinus : c ≠ '-' := by rintro rfl; exact absurd digit (by decide)
    have noPlus : c ≠ '+' := by rintro rfl; exact absurd digit (by decide)
    simp [read?, noMinus, noPlus, readDigits?, ungrouped, ofNat, spelled]

end Numeral
end ClusterVars
