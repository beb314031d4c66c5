/-!
# Binary64 — sixty-four bit floating-point numbers by their bits

A number is kept as its bits: a sign bit, eleven exponent bits and fifty-two
fraction bits. A finite number is `± significand * 2 ^ scale`; the exponent bits
are all ones for the infinities and for what is not a number.
-/

namespace ContractRules

/-- A floating-point number, by its bits. -/
structure Binary64 where
  bits : UInt64
  deriving Repr, DecidableEq

namespace Binary64

/-- The bits without the sign, as a number. Among numbers of one sign it is
    ordered as the numbers' distance from zero is. -/
def magnitude (x : Binary64) : Nat := x.bits.toNat % Nat.pow 2 63

/-- Whether the sign bit is set. -/
def isNegative (x : Binary64) : Bool := x.bits.toNat ≥ Nat.pow 2 63

/-- The exponent bits. -/
def exponentField (x : Binary64) : Nat := x.magnitude / Nat.pow 2 52

/-- The fraction bits. -/
def fractionField (x : Binary64) : Nat := x.magnitude % Nat.pow 2 52

/-- The magnitude of the infinities. -/
def infinity : Nat := 0x7FF * Nat.pow 2 52

/-- Whether the number is neither infinite nor without a value. -/
def isFinite (x : Binary64) : Bool := x.magnitude < infinity

/-- Whether the number is zero, of either sign. -/
def isZero (x : Binary64) : Bool := x.magnitude == 0

/-- The significand: the fraction, with the leading one of a normal number. -/
def significand (x : Binary64) : Nat :=
  if x.exponentField = 0 then x.fractionField else Nat.pow 2 52 + x.fractionField

/-- The power of two that the significand counts. -/
def scale (x : Binary64) : Int :=
  (max x.exponentField 1 : Nat) - 1075

/-- The number with this sign and magnitude. -/
def ofMagnitude (negative : Bool) (magnitude : Nat) : Binary64 :=
  ⟨UInt64.ofNat (magnitude + if negative then Nat.pow 2 63 else 0)⟩

end Binary64

end ContractRules
