import ContractRules.Journal

/-!
# What every definition begins with

A definition says of what kind it is and may give itself a name; without a name
it goes by its kind. From then on its problems are attributed to that name, unless
the name is empty.

A block is first asked for its kind alone, to find out who is to load it.
-/

namespace ContractRules

/-- The name of a definition, and the name of its kind. -/
structure Identity where
  name : String
  kind : String
  deriving Repr, DecidableEq

namespace Identity

/-- The field that holds the kind of a definition. -/
def kindField : String := "type"

/-- Reads the identity of a definition and renames the journal after it. -/
def load (block : Block) : Reading Identity := do
  let kind ← Reading.field (.required kindField) block
  let name ← Reading.field (.optional "name" kind) block
  if name ≠ "" then Reading.rename name
  return ⟨name, kind⟩

/-- Reads the kind of a definition and looks it up. A missing kind is a fault of
    the field, and one that is not found is the given problem. -/
def knownKind {κ : Type} (ofName? : String → Option κ) (unknown : String → Problem)
    (block : Block) : Reading (Option κ) := do
  match ← Reading.field (.required kindField : Field (Option String)) block with
  | none => return none
  | some name =>
    let found := ofName? name
    let _ ← Reading.require found.isSome (unknown name)
    return found

end Identity

end ContractRules
