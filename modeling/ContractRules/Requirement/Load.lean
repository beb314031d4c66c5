import ContractRules.Definition.Identity
import ContractRules.Requirement.Basic

/-!
# Loading requirements from definitions

A definition may leave out everything but its kind and its target. Every fault is
reported in one load, in the order in which the fields are read; the bounds are
compared whether or not they could be read.

The target is the tag, if there is one, and otherwise the type that the block
names: with a tag the type is neither needed nor looked at.
-/

namespace ContractRules

/-- Reads the base of a requirement from its definition. -/
def Requirement.Base.load (block : Block) : Reading Requirement.Base := do
  let identity ← Identity.load block
  let inverted ← Reading.field (.optional "invertRequirement" false) block
  let checkedWhileActive ←
    Reading.field (.optional "checkOnActiveContract" true) block
  let title? ← Reading.field (.optional "title" none) block
  return ⟨identity.name, identity.kind, inverted, checkedWhileActive, title?⟩

/-- Reads the target of a requirement whose tag is known. -/
def Target.load (registry : Registry) (block : Block) :
    Option String → Reading (Option Target)
  | some name => return some (.tag name)
  | none => do
    let identifier? : Option String ←
      Reading.field (.required Problem.typeField) block
    match identifier? with
    | none => return none
    | some identifier =>
      match ← Reading.logged (registry.resolve (← Reading.owner) identifier) with
      | .ok ref => return some (.type ref)
      | .error diagnostic =>
        Reading.record diagnostic
        return none

namespace Requirement

/-- Reads a requirement of a known kind from its definition. -/
def reading (registry : Registry) (kind : Kind) (block : Block) :
    Reading (Option Requirement) := do
  let base ← Base.load block
  let tag? ← Reading.field (.optional "tag" none) block
  let target? ← Target.load registry block tag?
  let least ← Reading.field (.optional "minCount" 1) block
  let greatest ← Reading.field (.optional "maxCount" unbounded) block
  let _ ← Reading.require (least ≤ greatest) (.crossedCounts least greatest)
  return target?.map fun target => ⟨base, kind, target, least, greatest⟩

/-- Loads a requirement as one of a given kind, whatever kind the block names. -/
def loadAs (registry : Registry) (kind : Kind) (block : Block) :
    Load Requirement := do
  let requirement ← (reading registry kind block).conclude kind.name
  Load.tell (.requirementLoaded requirement.base.name kind)
  return requirement

/-- Looks up the kind that a block names. -/
def knownKind (block : Block) : Reading (Option Kind) :=
  Identity.knownKind Kind.ofName? .unknownRequirement block

/-- Loads a requirement from its definition. -/
def load (registry : Registry) (block : Block) : Load Requirement := do
  let kind ← (knownKind block).conclude block.name
  loadAs registry kind block

end Requirement

end ContractRules
