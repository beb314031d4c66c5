import ContractRules.Definition.Identity

/-!
# Parameters — the goals of a contract

A parameter is loaded once from its definition and then generates a fresh goal for
each contract that uses it. Generating reads nothing: a parameter exists only if
its load succeeded.

There are two kinds. A vessel group asks that its children hold for one and the
same vessel, for some time; a timer asks to wait.
-/

namespace ContractRules

namespace Parameter

/-- The kinds of parameter. -/
inductive Kind where
  | vesselGroup
  | timer
  deriving Repr, DecidableEq

namespace Kind

/-- Every kind. -/
def catalog : List Kind := [vesselGroup, timer]

/-- The name of a kind in definitions. -/
def name : Kind → String
  | vesselGroup => "VesselParameterGroup"
  | timer => "Duration"

/-- The kind of a name. -/
def ofName? (name : String) : Option Kind :=
  catalog.find? (·.name == name)

instance : Inspect Kind :=
  ⟨fun kind => Text.record "ParameterKind" [("name", Text.quote kind.name)]⟩

@[simp] theorem ofName?_name (kind : Kind) : ofName? kind.name = some kind := by
  cases kind <;> rfl

end Kind

/-- What every parameter has, whatever its kind. -/
structure Base where
  name : String
  kind : String
  title? : Option String
  /-- Whether the contract survives that the goal is missed. -/
  optional : Bool
  hidden : Bool
  /-- Whether the goal can be reached only after the goals before it. -/
  inSequence : Bool
  deriving Repr, DecidableEq

end Parameter

/-- A group of goals for one vessel. -/
structure VesselGroup where
  base : Parameter.Base
  /-- How long the goals must hold. -/
  duration : Seconds
  /-- The name under which the vessel is remembered. -/
  define? : Option String
  /-- The vessels that may reach the goal; none means any. -/
  vessels : List String
  deriving Repr, DecidableEq

/-- A wait. -/
structure Timer where
  base : Parameter.Base
  duration : Seconds
  preWaitText? : Option String
  waitingText? : Option String
  completionText? : Option String
  deriving Repr, DecidableEq

/-- A parameter. -/
inductive Parameter where
  | vesselGroup (group : VesselGroup)
  | timer (wait : Timer)
  deriving Repr, DecidableEq

/-- What a parameter shares with the others. -/
def Parameter.base : Parameter → Parameter.Base
  | vesselGroup group => group.base
  | timer wait => wait.base

end ContractRules
