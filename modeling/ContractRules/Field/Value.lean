import ContractRules.Seconds
import ContractRules.Text.Numeral

/-!
# Typed values — how the raw values of a field are read

A type of field value says what it is called, whether it takes one value or all
values under its key, and how it reads them. An optional type reads like the type
itself; it differs in what may stand in for a field that is absent.
-/

namespace ContractRules

/-- The kinds of value that a field can have. -/
inductive ValueKind where
  | text
  | flag
  | count
  | span
  | texts
  deriving Repr, DecidableEq

namespace ValueKind

/-- What a kind is called in messages. -/
def label : ValueKind → String
  | text => "string"
  | flag => "boolean"
  | count => "unsigned integer"
  | span => "duration"
  | texts => "list of strings"

/-- Whether a kind takes every value under its key, and not the first one only. -/
def takesAll : ValueKind → Bool
  | texts => true
  | text | flag | count | span => false

end ValueKind

/-- Why raw values could not be read. -/
inductive ReadFault where
  | notFlag
  | notCount
  | notSpan
  /-- A reason given by a field of its own. -/
  | custom (reason : String)
  deriving Repr, DecidableEq

namespace ReadFault

/-- The wording of a reason. -/
def message : ReadFault → String
  | notFlag => "expected 'true' or 'false'"
  | notCount => "expected an unsigned integer between 0 and 4294967295"
  | notSpan => "expected a non-negative number of seconds"
  | custom reason => reason

end ReadFault

/-- Types of field value. The raw values handed to `read` are never empty when a
    block is read; of a missing first value the empty text is read. -/
class Readable (α : Type) where
  /-- The kind of the values. -/
  kind : ValueKind
  /-- Reads the raw values under a key. -/
  read : List String → Except ReadFault α
  /-- What stands in for a value that could not be read, while the rest of its
      block is still being checked. -/
  placeholder : α

/-- How a boolean is written. -/
def flagText (flag : Bool) : String := if flag then "true" else "false"

/-- How a count is written: in decimal, without leading zeros. -/
def countText (count : UInt32) : String := toString count.toNat

/-- The one value that a scalar is read from. -/
def firstRaw (values : List String) : String := values.headD ""

/-- Reads a boolean: `true` or `false` in any case, blanks around it allowed. -/
def readFlag (raw : String) : Except ReadFault Bool :=
  let word := String.ofList ((Text.trim raw.toList).map Char.toLower)
  if word = "true" then .ok true
  else if word = "false" then .ok false
  else .error .notFlag

/-- Reads a 32-bit count: digits only, blanks around them allowed. -/
def readCount (raw : String) : Except ReadFault UInt32 :=
  match Text.readUInt32? (Text.trim raw.toList) with
  | some count => .ok count
  | none => .error .notCount

/-- Reads a number of seconds. -/
def readSpan (raw : String) : Except ReadFault Seconds :=
  match Seconds.ofText? raw.toList with
  | some span => .ok span
  | none => .error .notSpan

namespace Readable

instance : Readable String := ⟨.text, fun raw => .ok (firstRaw raw), ""⟩

instance : Readable Bool := ⟨.flag, fun raw => readFlag (firstRaw raw), false⟩

instance : Readable UInt32 := ⟨.count, fun raw => readCount (firstRaw raw), 0⟩

instance : Readable Seconds :=
  ⟨.span, fun raw => readSpan (firstRaw raw), .unlimited⟩

instance : Readable (List String) := ⟨.texts, fun raw => .ok raw, []⟩

instance {α : Type} [Readable α] : Readable (Option α) :=
  ⟨kind α, fun raw => some <$> read raw, none⟩

end Readable

end ContractRules
