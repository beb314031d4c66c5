import ContractRules.Text.Blank

/-!
# Unsigned numerals — digits and nothing else

An unsigned numeral is one or more ASCII digits: no sign, no separator, no point.
Leading zeros are allowed and mean nothing.
-/

namespace ContractRules.Text

/-- The value of one ASCII digit. -/
def digitValue (c : Char) : Nat := c.toNat - '0'.toNat

/-- The number that a row of digits spells in decimal. -/
def digitsValue (digits : List Char) : Nat := Nat.ofDigitChars 10 digits 0

/-- Reads a text that is one or more digits and nothing else. -/
def readNumeral? (text : List Char) : Option Nat :=
  if text ≠ [] ∧ text.all Char.isDigit then some (digitsValue text) else none

/-- Reads a numeral that fits 32 bits. -/
def readUInt32? (text : List Char) : Option UInt32 :=
  match readNumeral? text with
  | some value => if value < UInt32.size then some (UInt32.ofNat value) else none
  | none => none

end ContractRules.Text
