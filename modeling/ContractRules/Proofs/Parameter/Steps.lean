import ContractRules.Parameter.Load
import ContractRules.Proofs.Definition.Steps

/-! # The steps of reading parameters

    Both kinds of parameter are read in one go: the base, the duration, and then
    texts that are never at fault.  So each of them has a value that the block
    gives (`VesselGroup.ofBlock`, `Timer.ofBlock`), and the steps on the way to it
    are those of the base and of the duration. -/

namespace ContractRules

open Reading

/-- A list of texts is every value under the key, and never at fault. -/
theorem Field.read_optional_texts (name : String) (block : Block) :
    (optional name [] : Field (List String)).read block = .ok (block.all name) := by
  have hraw : (optional name [] : Field (List String)).rawValues block =
      block.all name := rfl
  rw [read, hraw]
  cases block.all name <;> rfl

/-! ## The base -/

namespace Parameter.Base

/-- The base that a block gives. -/
def ofBlock (block : Block) : Base where
  name := (Identity.ofBlock block).name
  kind := (Identity.ofBlock block).kind
  title? := block.first? "title"
  optional := (Field.optional "optional" false).worth block
  hidden := (Field.optional "hidden" false).worth block
  inSequence := (Field.optional "completeInSequence" false).worth block

/-- The steps of reading a base. -/
def loadSteps (block : Block) : List Journal.Step :=
  Identity.steps block ++
    ((Field.optional "optional" false).steps block ++
      ((Field.optional "hidden" false).steps block ++
        (Field.optional "completeInSequence" false).steps block))

theorem does_load (block : Block) :
    Does (load block) (ofBlock block) (loadSteps block) := by
  have htitle := Field.read_optional_text? "title" block
  refine Does.congr (does_bind (Identity.does_load block)
    (does_bind_of_ok htitle (does_bind (does_field _ _) (does_bind (does_field _ _)
      (does_bind (does_field _ _) (does_pure _)))))) rfl ?_
  rw [List.append_nil]
  rfl

end Parameter.Base

/-! ## The kinds -/

namespace VesselGroup

/-- The vessel group that a block gives. -/
def ofBlock (block : Block) : VesselGroup where
  base := Parameter.Base.ofBlock block
  duration := (Field.optional "duration" Seconds.unlimited).worth block
  define? := block.first? "define"
  vessels := block.all "vessel"

/-- The steps of reading a vessel group. -/
def steps (block : Block) : List Journal.Step :=
  Parameter.Base.loadSteps block ++
    (Field.optional "duration" Seconds.unlimited).steps block

theorem does_reading (block : Block) :
    Does (reading block) (ofBlock block) (steps block) := by
  have hdefine := Field.read_optional_text? "define" block
  have hvessels := Field.read_optional_texts "vessel" block
  refine Does.congr (does_bind (Parameter.Base.does_load block)
    (does_bind (does_field _ _) (does_bind_of_ok hdefine
      (does_bind_of_ok hvessels (does_pure _))))) rfl ?_
  rw [List.append_nil]
  rfl

end VesselGroup

namespace Timer

/-- The field that holds how long a timer takes. -/
def durationField : Field Seconds :=
  (Field.required "duration").withReader readLasting

/-- The timer that a block gives. -/
def ofBlock (block : Block) : Timer where
  base := Parameter.Base.ofBlock block
  duration := durationField.worth block
  preWaitText? := block.first? "preWaitText"
  waitingText? := block.first? "waitingText"
  completionText? := block.first? "completionText"

/-- The steps of reading a timer. -/
def steps (block : Block) : List Journal.Step :=
  Parameter.Base.loadSteps block ++ durationField.steps block

theorem does_reading (block : Block) :
    Does (reading block) (ofBlock block) (steps block) := by
  have hpreWait := Field.read_optional_text? "preWaitText" block
  have hwaiting := Field.read_optional_text? "waitingText" block
  have hcompletion := Field.read_optional_text? "completionText" block
  refine Does.congr (does_bind (Parameter.Base.does_load block)
    (does_bind (does_field durationField _) (does_bind_of_ok hpreWait
      (does_bind_of_ok hwaiting (does_bind_of_ok hcompletion (does_pure _)))))) rfl ?_
  rw [List.append_nil]
  rfl

end Timer

end ContractRules
