import ContractRules.Text.Inspect

/-!
# Requirement kinds and the states they count

There are two kinds of requirement. Both count contracts, and they differ in the
lifecycle states that a contract may be in to be counted: only completed, or
accepted, which is active or since completed.
-/

namespace ContractRules

/-- A set of lifecycle states of a contract. -/
structure Lifecycle where
  offered : Bool
  active : Bool
  completed : Bool
  failed : Bool
  deriving Repr, DecidableEq

namespace Lifecycle

/-- No state at all. -/
def none : Lifecycle := ⟨false, false, false, false⟩

/-- Whether two sets have a state in common. -/
def meets (s t : Lifecycle) : Bool :=
  s.offered && t.offered || s.active && t.active ||
    s.completed && t.completed || s.failed && t.failed

/-- The set with one more state, given by name; other names add nothing. -/
def withName (s : Lifecycle) (name : String) : Lifecycle :=
  if name = "OFFERED" then { s with offered := true }
  else if name = "ACTIVE" then { s with active := true }
  else if name = "COMPLETED" then { s with completed := true }
  else if name = "FAILED" then { s with failed := true }
  else s

/-- The names of the states in a set, in the order of a contract's life. -/
def names (s : Lifecycle) : List String :=
  (if s.offered then ["OFFERED"] else []) ++ (if s.active then ["ACTIVE"] else []) ++
    (if s.completed then ["COMPLETED"] else []) ++ if s.failed then ["FAILED"] else []

end Lifecycle

namespace Requirement

/-- The kinds of requirement. -/
inductive Kind where
  /-- Counts completed contracts. -/
  | complete
  /-- Counts contracts that were accepted: active, or completed since. -/
  | accept
  deriving Repr, DecidableEq

namespace Kind

/-- Every kind. -/
def catalog : List Kind := [complete, accept]

/-- The name of a kind in definitions. -/
def name : Kind → String
  | complete => "CompleteContract"
  | accept => "AcceptContract"

/-- The kind of a name. -/
def ofName? (name : String) : Option Kind :=
  catalog.find? (·.name == name)

/-- The states that a kind counts. -/
def states : Kind → Lifecycle
  | complete => { Lifecycle.none with completed := true }
  | accept => { Lifecycle.none with active := true, completed := true }

/-- How a title says what the contracts must have been. -/
def phrase : Kind → String
  | complete => "Must have completed"
  | accept => "Must have accepted"

instance : Inspect Kind :=
  ⟨fun kind => Text.record "RequirementKind" [("name", Text.quote kind.name)]⟩

@[simp] theorem ofName?_name (kind : Kind) :
    ofName? kind.name = some kind := by
  cases kind <;> rfl

end Kind

end Requirement

end ContractRules
