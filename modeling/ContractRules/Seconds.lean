import ContractRules.Binary64.Reader
import ContractRules.Binary64.Shortest
import ContractRules.Text.Inspect

/-!
# Seconds — spans of game time

A span is a finite, non-negative number of seconds. Zero, of either sign, means
that there is no limit. Spans are made by `ofBinary64?` only, which refuses every
other number.
-/

namespace ContractRules

/-- A span of time, in seconds. -/
structure Seconds where
  value : Binary64
  deriving Repr, DecidableEq

namespace Seconds

/-- No limit. -/
def unlimited : Seconds := ⟨⟨0⟩⟩

/-- The span of so many seconds; negative numbers, infinities and what is not a
    number have none. Negative zero is not negative. -/
def ofBinary64? (x : Binary64) : Option Seconds :=
  if x.isFinite ∧ (x.isZero ∨ ¬ x.isNegative) then some ⟨x⟩ else none

/-- Reads a number of seconds, with blanks around it allowed. -/
def ofText? (text : List Char) : Option Seconds :=
  Binary64.ofText? (Text.trim text) >>= ofBinary64?

/-- Whether the span means that there is no limit. -/
def isUnlimited (s : Seconds) : Bool := s.value.isZero

/-- The order of two spans. -/
def compare (s t : Seconds) : Ordering :=
  Ord.compare s.value.magnitude t.value.magnitude

/-- The text of a span. -/
def text (s : Seconds) : String := s.value.text

instance : Inspect Seconds :=
  ⟨fun s => "Duration(" ++ s.value.inspect ++ ")"⟩

end Seconds

end ContractRules
