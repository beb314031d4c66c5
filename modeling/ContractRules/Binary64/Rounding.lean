import ContractRules.Binary64.Basic
import ContractRules.Decimal

/-!
# Rounding to binary64 — the nearest number, ties to even

The value to be rounded is a quotient of naturals, so nothing is lost before the
one rounding step. First the power of two is chosen at which the quotient has
fifty-three binary digits, or the least power there is, where it has fewer; then
the quotient by that power is rounded to a whole significand.

Significand and power together *are* the magnitude, by one multiplication and one
addition. A significand that rounds up to the next power of two carries into the
exponent bits by itself, and a magnitude beyond the largest finite one is that of
infinity.
-/

namespace ContractRules.Binary64

/-- The quotient of two naturals, rounded to the nearest whole number and, from
    halfway, to the even one. -/
def divideToEven (num den : Nat) : Nat :=
  let down := num / den
  let twice := 2 * (num % den)
  if twice < den then down
  else if den < twice then down + 1
  else down + down % 2

/-- The least power of two that a finite number counts in. -/
def leastScale : Int := -1074

/-- The quotient of `num / den` and a power of two, rounded to even. -/
def divideByPower (num den : Nat) (power : Int) : Nat :=
  divideToEven (num * Nat.pow 2 (-power).toNat) (den * Nat.pow 2 power.toNat)

/-- The power of two at which `num / den` has fifty-three binary digits before
    the point, or the least one. The logarithms give it up to one. -/
def scaleOf (num den : Nat) : Int :=
  let power := max ((Nat.log2 num : Int) - Nat.log2 den - 53) leastScale
  if num * Nat.pow 2 (-power).toNat <
      den * Nat.pow 2 power.toNat * Nat.pow 2 53 then power
  else power + 1

/-- The magnitude of the number nearest to `num / den`. -/
def magnitudeOfQuotient (num den : Nat) : Nat :=
  let power := scaleOf num den
  min (divideByPower num den power +
    (power - leastScale).toNat * Nat.pow 2 52) infinity

/-- The magnitude of the number nearest to a decimal. Decimals far above or below
    the range are settled by the place of their first digit, so that no useless
    power of ten is computed. -/
def magnitudeOfDecimal (d : Decimal) : Nat :=
  if d.coefficient = 0 then 0
  else if d.leading ≥ 310 then infinity
  else if d.leading ≤ -330 then 0
  else
    magnitudeOfQuotient (d.coefficient * Nat.pow 10 d.exponent.toNat)
      (Nat.pow 10 (-d.exponent).toNat)

end ContractRules.Binary64
