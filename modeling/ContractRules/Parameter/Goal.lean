import ContractRules.Parameter.Basic

/-!
# Goals — what parameters generate for a contract

A goal belongs to one contract. It holds what the engine needs and no more: the
flags of the parameter stay with the parameter.
-/

namespace ContractRules

/-- A goal of one contract; the duration is in seconds. -/
inductive Goal where
  | vesselGroup (contract : String) (title? define? : Option String)
      (vessels : List String) (duration : Binary64)
  | timer (contract : String) (title? : Option String) (duration : Binary64)
      (preWaitText? waitingText? completionText? : Option String)
  deriving Repr, DecidableEq

namespace Goal

/-- How long a goal takes. -/
def duration : Goal → Binary64
  | vesselGroup _ _ _ _ duration => duration
  | timer _ _ duration _ _ _ => duration

end Goal

/-- The goal that a parameter generates for the contract of this name. -/
def Parameter.generate (contract : String) : Parameter → Goal
  | vesselGroup group =>
    .vesselGroup contract group.base.title? group.define? group.vessels
      group.duration.value
  | timer wait =>
    .timer contract wait.base.title? wait.duration.value wait.preWaitText?
      wait.waitingText? wait.completionText?

end ContractRules
