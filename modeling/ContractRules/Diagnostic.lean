import ContractRules.Field.Basic

/-!
# Diagnostics — what can be wrong with a definition

A diagnostic is a problem with the owner it is attributed to. Loading a definition
never stops at the first problem: a load that fails hands over all diagnostics
that it found, in the order in which it found them.
-/

namespace ContractRules

/-- Something wrong with a definition. -/
inductive Problem where
  /-- A field could not be read. -/
  | field (fault : FieldFault)
  /-- A contract type identifier that no registered type answers to. -/
  | unresolvedType (identifier : String)
  /-- A requirement of a kind that there is not. -/
  | unknownRequirement (kind : String)
  /-- A parameter of a kind that there is not. -/
  | unknownParameter (kind : String)
  /-- A least count above the greatest one. -/
  | crossedCounts (least greatest : UInt32)
  /-- Nothing to build a definition from, although nothing else is wrong. -/
  | incomplete
  /-- A constraint with a wording of its own. -/
  | custom (text : String)
  deriving Repr, DecidableEq

namespace Problem

/-- The field that names contract types. -/
def typeField : String := "contractType"

/-- The field that a problem is about, if it is about one. -/
def field? : Problem → Option String
  | field fault => some fault.field
  | unresolvedType _ => some typeField
  | unknownRequirement _ | unknownParameter _ | crossedCounts .. | incomplete
  | custom _ => none

/-- The wording of a problem. -/
def message : Problem → String
  | field fault => fault.message
  | unresolvedType identifier =>
    s!"{typeField} '{identifier}' must either name a declarative contract type " ++
      "or a registered compiled contract type"
  | unknownRequirement kind => s!"unknown requirement type '{kind}'"
  | unknownParameter kind => s!"unknown parameter type '{kind}'"
  | crossedCounts least greatest =>
    s!"minCount ({least.toNat}) must not exceed maxCount ({greatest.toNat})"
  | incomplete => "definition is incomplete"
  | custom text => text

end Problem

/-- A problem, attributed to its owner. -/
structure Diagnostic where
  owner : String
  problem : Problem
  deriving Repr, DecidableEq

namespace Diagnostic

/-- The field that a diagnostic is about, if it is about one. -/
def field? (d : Diagnostic) : Option String := d.problem.field?

/-- The text of a diagnostic: its owner, then its problem. -/
def text (d : Diagnostic) : String := d.owner ++ ": " ++ d.problem.message

end Diagnostic

/-- A load that failed, with every diagnostic it found. -/
structure LoadFailure where
  owner : String
  diagnostics : List Diagnostic
  deriving Repr, DecidableEq

/-- The wording of a failure. -/
def LoadFailure.message (failure : LoadFailure) : String :=
  s!"{failure.owner}: {failure.diagnostics.length} error(s) while loading"

end ContractRules
