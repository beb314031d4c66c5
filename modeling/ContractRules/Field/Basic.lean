import ContractRules.Block.Basic
import ContractRules.Field.Value

/-!
# Fields — what a definition expects of a block

A field names the key it is read from and may give a default for a block without
that key. Its values are read as its type reads them, unless it brings a reader of
its own.

* no value under the key: the default, or the fault `missing`;
* otherwise: what the reader makes of the values, or the fault `unreadable`.
-/

namespace ContractRules

/-- A reader of raw values. -/
abbrev Reader (α : Type) := List String → Except ReadFault α

/-- What is read from a block, and what stands for it when it is absent. -/
structure Field (α : Type) where
  name : String
  default? : Option α
  reader? : Option (Reader α)

/-- Why a field has no value. -/
inductive FieldFault where
  /-- A field without default is absent. -/
  | missing (field : String)
  /-- The values of a field, here joined by commas, are none of its kind. -/
  | unreadable (field raw : String) (kind : ValueKind) (reason : ReadFault)
  deriving Repr, DecidableEq

namespace FieldFault

/-- The field that a fault is about. -/
def field : FieldFault → String
  | missing field => field
  | unreadable field .. => field

/-- The wording of a fault. -/
def message : FieldFault → String
  | missing field => s!"missing required field '{field}'"
  | unreadable field raw kind reason =>
    s!"error parsing '{field}': '{raw}' is not a valid " ++
      s!"{kind.label} ({reason.message})"

end FieldFault

namespace Field

variable {α : Type}

/-- A field that a block must have. -/
def required (name : String) : Field α := ⟨name, none, none⟩

/-- A field with a default. -/
def optional (name : String) (default : α) : Field α := ⟨name, some default, none⟩

/-- The same field with a default. -/
def withDefault (field : Field α) (default : α) : Field α :=
  { field with default? := some default }

/-- The same field with a reader of its own. -/
def withReader (field : Field α) (reader : Reader α) : Field α :=
  { field with reader? := some reader }

/-- Whether a block must have the field. -/
def isMandatory (field : Field α) : Bool := field.default?.isNone

/-- The raw values of a field in a block: all of them or the first one, as the
    kind of its type asks. -/
def rawValues [Readable α] (field : Field α) (block : Block) : List String :=
  if (Readable.kind α).takesAll then block.all field.name
  else (block.first? field.name).toList

/-- Reads a field from a block. -/
def read [Readable α] (field : Field α) (block : Block) : Except FieldFault α :=
  match field.rawValues block with
  | [] =>
    match field.default? with
    | some value => .ok value
    | none => .error (.missing field.name)
  | raw =>
    match field.reader?.getD Readable.read raw with
    | .ok value => .ok value
    | .error reason =>
      .error (.unreadable field.name (String.intercalate ", " raw)
        (Readable.kind α) reason)

/-- The diagnostic text of a field; of a reader it shows that there is one. -/
def describe [Inspect α] (field : Field α) : String :=
  Text.record "FieldSpec"
    [("name", inspect field.name),
     ("default", inspect field.default?),
     ("converter", inspect (field.reader?.map fun _ => "<function>"))]

end Field

end ContractRules
