import ContractRules.Requirement.Basic

/-!
# Checking requirements against contracts

The engine shows a requirement every contract it knows of. A requirement counts
those that are in the right state and that its target describes, and its condition
holds if the count lies within the bounds. A count beyond 32 bits counts as the
largest bound, so that "no upper bound" really is none.
-/

namespace ContractRules

/-- A contract, as far as a requirement looks at it. -/
structure ContractRecord where
  typeName : String
  tags : List String
  state : Lifecycle
  deriving Repr, DecidableEq

/-- Whether a target describes a contract. -/
def Target.describes : Target → ContractRecord → Bool
  | .tag name, record => record.tags.contains name
  | .type ref, record => record.typeName == ref.typeName

namespace Requirement

/-- Whether a requirement counts a contract. -/
def counts (requirement : Requirement) (record : ContractRecord) : Bool :=
  requirement.kind.states.meets record.state && requirement.target.describes record

/-- The number of contracts that a requirement counts, up to the largest bound. -/
def count (requirement : Requirement) (records : List ContractRecord) : Nat :=
  min (records.countP requirement.counts) unbounded.toNat

/-- Whether the count lies within the bounds. -/
def isMet (requirement : Requirement) (records : List ContractRecord) : Bool :=
  let count := requirement.count records
  requirement.least.toNat ≤ count && count ≤ requirement.greatest.toNat

/-- The engine's answer: a requirement that does not apply now is fulfilled, and
    an inverted one is fulfilled when its condition fails. -/
def check (requirement : Requirement) (records : List ContractRecord)
    (parentActive : Bool) : Bool :=
  if requirement.base.applies parentActive then
    requirement.isMet records != requirement.base.inverted
  else true

end Requirement

end ContractRules
