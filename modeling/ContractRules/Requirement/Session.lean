import ContractRules.Requirement.Load

/-!
# Requirements across sessions — saving and restoring

The saved form of a requirement is a block that holds the base first and then the
state of its kind, with exactly one of tag and type. Restoring reads it back.

Restoring differs from loading a definition: the counts must be there, the bounds
are not compared, nothing is logged but faults, and a base that cannot be read
stops the restoring before the rest is looked at.
-/

namespace ContractRules

/-- The entries of a base in saved state. Whether the condition is checked while
    the parent is active belongs to the state of the kind. -/
def Requirement.Base.saved (base : Requirement.Base) : List (String × String) :=
  [("name", base.name), (Identity.kindField, base.kind),
   ("invertRequirement", flagText base.inverted)] ++
    base.title?.toList.map fun title => ("title", title)

/-- Reads the base of a requirement from its saved state. -/
def Requirement.Base.restore (block : Block) : Reading Requirement.Base := do
  let identity ← Identity.load block
  let inverted ← Reading.field (.optional "invertRequirement" false) block
  let title? ← Reading.field (.optional "title" none) block
  return ⟨identity.name, identity.kind, inverted, true, title?⟩

/-- The entry of a target in saved state. -/
def Target.saved : Target → String × String
  | .tag name => ("tag", name)
  | .type ref => (Problem.typeField, ref.identifier)

namespace Requirement

/-- The entries of the kind's own state. -/
def savedState (requirement : Requirement) : List (String × String) :=
  [("minCount", countText requirement.least),
   ("maxCount", countText requirement.greatest),
   ("checkOnActiveContract", flagText requirement.base.checkedWhileActive),
   requirement.target.saved]

/-- The entries of a requirement in saved state. -/
def saved (requirement : Requirement) : List (String × String) :=
  requirement.base.saved ++ requirement.savedState

/-- Saves a requirement at the end of a block. -/
def save (requirement : Requirement) (block : Block) : Block :=
  block.append requirement.saved

/-- Reads the state of a requirement whose base and kind are known. -/
def stateReading (registry : Registry) (kind : Kind) (base : Base) (block : Block) :
    Reading (Option Requirement) := do
  let least ← Reading.field (.required "minCount") block
  let greatest ← Reading.field (.required "maxCount") block
  let checkedWhileActive ←
    Reading.field (.optional "checkOnActiveContract" true) block
  let target? ← Target.load registry block (block.first? "tag")
  return target?.map fun target =>
    ⟨{ base with checkedWhileActive }, kind, target, least, greatest⟩

/-- Resumes a requirement from the saved state of its kind and a base. -/
def resume (registry : Registry) (kind : Kind) (base : Base) (block : Block) :
    Load Requirement :=
  (stateReading registry kind base block).conclude base.name

/-- Reads the base from saved state and looks up its kind. An empty kind is no
    problem of its own: the field was missing, or nothing can be built. -/
def savedKind (block : Block) : Reading (Option (Base × Kind)) := do
  let base ← Base.restore block
  if base.kind = "" then return none
  else
    let found := Kind.ofName? base.kind
    let _ ← Reading.require found.isSome (.unknownRequirement base.kind)
    return found.map fun kind => (base, kind)

/-- Restores a requirement from its saved form. -/
def restore (registry : Registry) (block : Block) : Load Requirement := do
  let (base, kind) ← (savedKind block).conclude block.name
  resume registry kind base block

end Requirement

end ContractRules
