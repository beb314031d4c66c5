import ContractRules.Block.Format
import ContractRules.Registry.Draft

/-!
# Failures — everything that can keep a run from its result

A run can fail because its text is no document, because its contract types cannot
be registered together, or because a definition does not load. The wording says
which of the first two it was; a load speaks for itself.
-/

namespace ContractRules

/-- Why a run has no result. -/
inductive Failure where
  | format (error : Block.FormatError)
  | registry (error : RegistryError)
  | load (failure : LoadFailure)
  deriving Repr, DecidableEq

/-- The wording of a failure. -/
def Failure.message : Failure → String
  | format error => "config error: " ++ error.message
  | registry error => "registry error: " ++ error.message
  | load failure => failure.message

end ContractRules
