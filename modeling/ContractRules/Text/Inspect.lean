import ContractRules.Text.Printable

/-!
# Diagnostic text — values on one line, in a form that shows what they are

Strings stand in double quotes, with escapes for what a reader could not tell
apart otherwise; optional values are `None` or `Some(…)`; lists stand in square
brackets; a record is its name with its fields in braces.
-/

namespace ContractRules.Text

/-- The digits of a code point in base sixteen, in lower case. -/
def hexDigits (n : Nat) : List Char := Nat.toDigits 16 n

/-- How one character of a quoted string is written. -/
def quoteChar (c : Char) : List Char :=
  match c with
  | '\x00' => ['\\', '0']
  | '\t' => ['\\', 't']
  | '\n' => ['\\', 'n']
  | '\r' => ['\\', 'r']
  | '"' => ['\\', '"']
  | '\\' => ['\\', '\\']
  | c =>
    if isPrintable c then [c]
    else ['\\', 'u', '\x7b'] ++ hexDigits c.toNat ++ ['\x7d']

/-- A string in double quotes. -/
def quote (text : String) : String :=
  String.ofList ('"' :: text.toList.flatMap quoteChar ++ ['"'])

/-- A record: its name, and its fields with their texts. -/
def record (name : String) (fields : List (String × String)) : String :=
  let inner := fields.map fun field => field.1 ++ ": " ++ field.2
  name ++ " \x7b " ++ String.intercalate ", " inner ++ " \x7d"

end ContractRules.Text

namespace ContractRules

/-- Types whose values have a diagnostic text. -/
class Inspect (α : Type) where
  /-- The diagnostic text of a value. -/
  inspect : α → String

export Inspect (inspect)

instance : Inspect String := ⟨Text.quote⟩

instance : Inspect Bool := ⟨fun flag => if flag then "true" else "false"⟩

instance : Inspect UInt32 := ⟨fun count => toString count.toNat⟩

instance {α : Type} [Inspect α] : Inspect (List α) where
  inspect values := "[" ++ String.intercalate ", " (values.map inspect) ++ "]"

instance {α : Type} [Inspect α] : Inspect (Option α) where
  inspect
    | none => "None"
    | some value => "Some(" ++ inspect value ++ ")"

end ContractRules
