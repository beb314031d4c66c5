import ContractRules.Parameter.Basic

/-!
# Loading parameters from definitions

A vessel group without a duration does not wait. A timer must have a duration, and
one that lasts: zero is refused, also a text so small that it reads as zero.
-/

namespace ContractRules

/-- Reads the base of a parameter from its definition. -/
def Parameter.Base.load (block : Block) : Reading Parameter.Base := do
  let identity ← Identity.load block
  let title? ← Reading.field (.optional "title" none) block
  let optional ← Reading.field (.optional "optional" false) block
  let hidden ← Reading.field (.optional "hidden" false) block
  let inSequence ← Reading.field (.optional "completeInSequence" false) block
  return ⟨identity.name, identity.kind, title?, optional, hidden, inSequence⟩

namespace VesselGroup

/-- Reads a vessel group from its definition. -/
def reading (block : Block) : Reading VesselGroup := do
  let base ← Parameter.Base.load block
  let duration ← Reading.field (.optional "duration" Seconds.unlimited) block
  let define? ← Reading.field (.optional "define" none) block
  let vessels ← Reading.field (.optional "vessel" []) block
  return ⟨base, duration, define?, vessels⟩

/-- Loads a vessel group, whatever kind the block names. -/
def load (block : Block) : Load VesselGroup :=
  (some <$> reading block).conclude Parameter.Kind.vesselGroup.name

end VesselGroup

/-- Reads a number of seconds that is not zero. -/
def readLasting : Reader Seconds := fun raw => do
  let duration ← Readable.read raw
  if duration.isUnlimited then
    throw (.custom "duration must be greater than zero")
  return duration

namespace Timer

/-- Reads a timer from its definition. -/
def reading (block : Block) : Reading Timer := do
  let base ← Parameter.Base.load block
  let duration ←
    Reading.field ((Field.required "duration").withReader readLasting) block
  let preWaitText? ← Reading.field (.optional "preWaitText" none) block
  let waitingText? ← Reading.field (.optional "waitingText" none) block
  let completionText? ← Reading.field (.optional "completionText" none) block
  return ⟨base, duration, preWaitText?, waitingText?, completionText?⟩

/-- Loads a timer, whatever kind the block names. -/
def load (block : Block) : Load Timer :=
  (some <$> reading block).conclude Parameter.Kind.timer.name

end Timer

namespace Parameter

/-- Loads a parameter as one of a given kind. -/
def loadAs (block : Block) : Kind → Load Parameter
  | .vesselGroup => vesselGroup <$> VesselGroup.load block
  | .timer => timer <$> Timer.load block

/-- Looks up the kind that a block names. -/
def knownKind (block : Block) : Reading (Option Kind) :=
  Identity.knownKind Kind.ofName? .unknownParameter block

/-- Loads a parameter from its definition. -/
def load (block : Block) : Load Parameter := do
  let kind ← (knownKind block).conclude block.name
  loadAs block kind

end Parameter

end ContractRules
