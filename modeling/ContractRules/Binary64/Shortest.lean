import ContractRules.Binary64.Basic
import ContractRules.Decimal

/-!
# The shortest decimal of a binary64 number

Every decimal in an interval around a finite number reads back as that number: it
reaches halfway to the neighbours, ends included exactly when the significand is
even. The shortest decimal is the one in the interval with the fewest digits, and
among those the nearest; exactly halfway the upper one.

The search goes through the powers of ten downwards, from one above the number.
On the grid of each power only the two points around the number have to be tried,
because if any point of the grid is in the interval, one of these is. Everything
is compared in whole quarters of the significand's unit, by cross multiplication.
-/

namespace ContractRules.Binary64

/-- A finite number in quarters of its unit, with the ends of its interval. -/
structure Span where
  low : Nat
  value : Nat
  high : Nat
  /-- Whether the ends read back too. -/
  closed : Bool
  /-- The power of two that one quarter counts. -/
  unit : Int

/-- The interval of a number. Just above a power of two the neighbour below is
    only half as far away. -/
def span (x : Binary64) : Span :=
  let value := 4 * x.significand
  let narrow := x.fractionField = 0 ∧ x.exponentField > 1
  { low := if narrow then value - 1 else value - 2
    value := value
    high := value + 2
    closed := x.significand % 2 == 0
    unit := x.scale - 2 }

namespace Span

/-- Quarters, made comparable with multiples of a power of ten. -/
def scaled (s : Span) (quarters : Nat) (power : Int) : Nat :=
  quarters * Nat.pow 2 s.unit.toNat * Nat.pow 10 (-power).toNat

/-- A power of ten, made comparable with quarters. -/
def grid (s : Span) (power : Int) : Nat :=
  Nat.pow 10 power.toNat * Nat.pow 2 (-s.unit).toNat

/-- Whether `n * 10 ^ power` reads back. -/
def holds (s : Span) (power : Int) (n : Nat) : Bool :=
  let point := n * s.grid power
  let low := s.scaled s.low power
  let high := s.scaled s.high power
  if s.closed then low ≤ point && point ≤ high
  else low < point && point < high

/-- The point that reads back on the grid of a power of ten: of the two points
    around the number the nearer one, or the upper one from halfway. -/
def onGrid? (s : Span) (power : Int) : Option Nat :=
  let value := s.scaled s.value power
  let down := value / s.grid power
  match s.holds power down, s.holds power (down + 1) with
  | true, true =>
    if 2 * value < (2 * down + 1) * s.grid power then some down else some (down + 1)
  | true, false => some down
  | false, true => some (down + 1)
  | false, false => none

/-- The first decimal that reads back, going down from a power of ten for at most
    so many grids. -/
def search (s : Span) (power : Int) : Nat → Option Decimal
  | 0 => none
  | grids + 1 =>
    match s.onGrid? power with
    | some n => some ⟨n, power⟩
    | none => s.search (power - 1) grids

/-- A power of ten above the number; at most one above the least such power. -/
def above (s : Span) : Int :=
  let digits : Int := Nat.log2 s.value + s.unit + 1
  -- The logarithm of two to the base ten is a little below 30103 / 100000.
  digits * 30103 / 100000 + 1

end Span

/-- The number of powers of ten that a search needs at most: seventeen digits
    always read back, and it starts up to two places above the first digit. -/
def searchDepth : Nat := 20

/-- The shortest decimal that reads back as a finite number other than zero, and
    the decimal zero for zero. -/
def shortest (x : Binary64) : Decimal :=
  if x.isZero then ⟨0, 0⟩
  else
    let s := x.span
    match s.search s.above searchDepth with
    | some d => d
    | none => ⟨s.scaled s.value (min s.unit 0) / s.grid (min s.unit 0), min s.unit 0⟩

/-- A minus for the numbers with the sign bit. -/
def signText (x : Binary64) : String :=
  if x.isNegative then "-" else ""

/-- The text of a finite number: its shortest decimal in positional notation. -/
def text (x : Binary64) : String :=
  x.signText ++ x.shortest.positional

/-- The text of a finite number for diagnosis: positional with at least one place
    behind the point, but scientific from `10 ^ 16` on and below `10 ^ -4`. -/
def inspect (x : Binary64) : String :=
  let d := x.shortest
  let wide := d.leading ≥ 16 ∨ d.leading < -4
  x.signText ++
    if ¬ x.isZero ∧ wide then d.scientific
    else if d.exponent ≥ 0 then d.positional ++ ".0"
    else d.positional

end ContractRules.Binary64
