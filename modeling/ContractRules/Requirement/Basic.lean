import ContractRules.Requirement.Kind
import ContractRules.Registry.Resolve

/-!
# Requirements — conditions on other contracts

A requirement counts the contracts that its target describes and that are in the
states of its kind, and compares the count with two bounds. What requirements of
every kind share is their base.
-/

namespace ContractRules

namespace Requirement

/-- What every requirement has, whatever its kind. -/
structure Base where
  name : String
  /-- The name of the kind, as the definition gives it. -/
  kind : String
  /-- Whether the requirement is met exactly when its condition fails. -/
  inverted : Bool
  /-- Whether the condition is checked while the parent contract is active, and
      not only when it is offered. -/
  checkedWhileActive : Bool
  title? : Option String
  deriving Repr, DecidableEq

namespace Base

/-- The base of a requirement that says nothing but its kind. -/
def ofKind (kind : String) : Base := ⟨kind, kind, false, true, none⟩

/-- Whether the condition has to be checked now. -/
def applies (base : Base) (parentActive : Bool) : Bool :=
  !parentActive || base.checkedWhileActive

end Base

end Requirement

/-- The contracts that a requirement looks at: those with a tag, or those of a
    type. -/
inductive Target where
  | tag (name : String)
  | type (ref : TypeRef)
  deriving Repr, DecidableEq

/-- A requirement. -/
structure Requirement where
  base : Requirement.Base
  kind : Requirement.Kind
  target : Target
  /-- The least count that meets the condition. -/
  least : UInt32
  /-- The greatest count that meets the condition. -/
  greatest : UInt32
  deriving Repr, DecidableEq

namespace Requirement

/-- The largest bound, which stands for no upper bound. -/
def unbounded : UInt32 := 4294967295

end Requirement

end ContractRules
