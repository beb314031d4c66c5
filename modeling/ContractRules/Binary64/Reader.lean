import ContractRules.Binary64.Rounding
import ContractRules.Text.Numeral

/-!
# Reading binary64 numbers

A number is an optional sign and then either one of the words `inf`, `infinity`
and `nan`, in any case, or a decimal: digits with an optional point, at least one
digit in all, and an optional power of ten behind `e` or `E`. Nothing may follow.
The result is the nearest number; a decimal too large for every finite one reads
as infinity, and one too small as zero.
-/

namespace ContractRules.Binary64

/-- The value of the digits of a power of ten. It stops growing once it has five
    digits, when it is beyond every finite number. -/
def powerValue (digits : List Char) : Nat :=
  digits.foldl
    (fun value c => if value < 65536 then 10 * value + Text.digitValue c else value) 0

/-- Reads a sign, if there is one: whether it is a minus, and the rest. -/
def readSign : List Char → Bool × List Char
  | '-' :: rest => (true, rest)
  | '+' :: rest => (false, rest)
  | text => (false, text)

/-- Reads the power of ten at the end of a decimal; without one it is zero. -/
def readPower? : List Char → Option Int
  | [] => some 0
  | mark :: rest =>
    let (negative, digits) := readSign rest
    if (mark = 'e' ∨ mark = 'E') ∧ digits ≠ [] ∧ digits.all Char.isDigit then
      let power : Int := powerValue digits
      some (if negative then -power else power)
    else none

/-- Splits off the digits behind a point, if there is one. -/
def splitFraction : List Char → List Char × List Char
  | '.' :: rest => rest.span Char.isDigit
  | text => ([], text)

/-- Reads an unsigned decimal. -/
def readDecimal? (text : List Char) : Option Decimal :=
  let (whole, rest) := text.span Char.isDigit
  let (fraction, rest) := splitFraction rest
  match whole ++ fraction, readPower? rest with
  | [], _ => none
  | _, none => none
  | digits, some power =>
    some ⟨Text.digitsValue digits, power - fraction.length⟩

/-- The magnitude of what is not a number. -/
def notANumber : Nat := infinity + Nat.pow 2 51

/-- Reads the magnitude that an unsigned text stands for. -/
def readMagnitude? (text : List Char) : Option Nat :=
  let word := String.ofList (text.map Char.toLower)
  if word = "inf" ∨ word = "infinity" then some infinity
  else if word = "nan" then some notANumber
  else (readDecimal? text).map magnitudeOfDecimal

/-- Reads a number. -/
def ofText? (text : List Char) : Option Binary64 :=
  let (negative, rest) := readSign text
  (readMagnitude? rest).map (ofMagnitude negative)

end ContractRules.Binary64
