import ContractRules.Block.Reader
import ContractRules.Parameter.Load
import ContractRules.Requirement.Load

/-!
# Documents — loading every definition of a text

Each block of a document is loaded on its own: a block named `REQUIREMENT` as a
requirement, one named `PARAMETER` as a parameter, and any other is passed over.
A block that fails does not keep the others from loading, so one run shows every
problem. The contents of a document are the outcomes of its blocks, sorted by
what became of them, each group in the order of the document.
-/

namespace ContractRules

/-- A definition that loaded. -/
inductive Definition where
  | requirement (r : Requirement)
  | parameter (p : Parameter)
  deriving Repr, DecidableEq

/-- The name of a definition. -/
def Definition.name : Definition → String
  | requirement r => r.base.name
  | parameter p => p.base.name

/-- What became of one block. -/
inductive Outcome where
  | loaded (definition : Definition)
  | failed (failure : LoadFailure)
  /-- The block defines nothing; this is its name. -/
  | skipped (name : String)
  deriving Repr, DecidableEq

namespace Outcome

/-- The definition of a block that loaded. -/
def definition? : Outcome → Option Definition
  | loaded definition => some definition
  | failed _ | skipped _ => none

/-- The failure of a block that failed. -/
def failure? : Outcome → Option LoadFailure
  | failed failure => some failure
  | loaded _ | skipped _ => none

/-- The name of a block that was passed over. -/
def skipped? : Outcome → Option String
  | skipped name => some name
  | loaded _ | failed _ => none

/-- The outcome of a load. -/
def ofLoad {α : Type} (definition : α → Definition) (load : Load α) :
    Logged Outcome := do
  match ← load.run with
  | .ok value => return loaded (definition value)
  | .error failure => return failed failure

/-- Loads one block. -/
def ofBlock (registry : Registry) (block : Block) : Logged Outcome :=
  if block.name = "REQUIREMENT" then
    ofLoad .requirement (Requirement.load registry block)
  else if block.name = "PARAMETER" then
    ofLoad .parameter (Parameter.load block)
  else do
    Logged.tell (.skipped block.name)
    return skipped block.name

end Outcome

/-- The contents of a document. -/
structure Contents where
  definitions : List Definition
  failures : List LoadFailure
  /-- The names of the blocks that were passed over. -/
  skipped : List String
  deriving Repr, DecidableEq

namespace Contents

/-- Sorts the outcomes of the blocks. -/
def ofOutcomes (outcomes : List Outcome) : Contents where
  definitions := outcomes.filterMap Outcome.definition?
  failures := outcomes.filterMap Outcome.failure?
  skipped := outcomes.filterMap Outcome.skipped?

/-- Whether no definition failed. -/
def isValid (contents : Contents) : Bool := contents.failures.isEmpty

/-- The requirements among the definitions. -/
def requirements (contents : Contents) : List Requirement :=
  contents.definitions.filterMap fun
    | .requirement r => some r
    | .parameter _ => none

/-- The parameters among the definitions. -/
def parameters (contents : Contents) : List Parameter :=
  contents.definitions.filterMap fun
    | .parameter p => some p
    | .requirement _ => none

/-- The diagnostics of all failures. -/
def diagnostics (contents : Contents) : List Diagnostic :=
  contents.failures.flatMap (·.diagnostics)

/-- Loads every block of a document. -/
def ofBlocks (registry : Registry) (blocks : List Block) : Logged Contents := do
  let contents := ofOutcomes (← Logged.all (blocks.map (Outcome.ofBlock registry)))
  Logged.tell (.documentLoaded contents.definitions.length
    contents.failures.length contents.skipped.length)
  return contents

/-- Loads every block of a text, if the text is a document. -/
def ofText (registry : Registry) (text : String) :
    Except Block.FormatError (Logged Contents) :=
  (Block.ofText text).map (ofBlocks registry)

end Contents

end ContractRules
