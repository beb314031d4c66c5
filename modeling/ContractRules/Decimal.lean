/-!
# Decimal numbers and their notations

A decimal is a natural coefficient times a power of ten. The same number has many
such forms; the notations below print the one they are given, so a coefficient
without trailing zeros gives the shortest text.
-/

namespace ContractRules

/-- The number `coefficient * 10 ^ exponent`. -/
structure Decimal where
  coefficient : Nat
  exponent : Int
  deriving Repr, DecidableEq

namespace Decimal

/-- The digits of the coefficient. -/
def digits (d : Decimal) : List Char :=
  (toString d.coefficient).toList

/-- The power of ten of the first digit. -/
def leading (d : Decimal) : Int :=
  d.exponent + d.digits.length - 1

/-- A row of zeros. -/
private def zeros (n : Nat) : List Char := List.replicate n '0'

/-- Positional notation: every place is written out, and there is no point in a
    whole number. -/
def positional (d : Decimal) : String :=
  let digits := d.digits
  let places := (-d.exponent).toNat
  if d.exponent ≥ 0 then String.ofList (digits ++ zeros d.exponent.toNat)
  else if places < digits.length then
    let whole := digits.length - places
    String.ofList (digits.take whole ++ '.' :: digits.drop whole)
  else
    String.ofList ('0' :: '.' :: zeros (places - digits.length) ++ digits)

/-- Scientific notation: one digit, the others behind a point if there are any,
    and the power of ten. -/
def scientific (d : Decimal) : String :=
  let power := s!"e{d.leading}"
  match d.digits with
  | [] => power
  | [digit] => String.ofList [digit] ++ power
  | digit :: rest => String.ofList (digit :: '.' :: rest) ++ power

end Decimal

end ContractRules
