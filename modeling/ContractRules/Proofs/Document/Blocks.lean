import ContractRules.Proofs.Document.Contents

/-! # Blocks of a document — each one by itself

    What becomes of a block does not depend on the blocks around it.  `Yields`
    lists the five things that can become of it: it defines a requirement or a
    parameter and loads or fails, or it defines neither and is passed over.

    A document sorts its outcomes into three lists, and sorting goes along with
    putting outcomes together (`ofOutcomes_append`) and loses none
    (`length_ofOutcomes`).  So the contents of a document are the contents of its
    blocks put together, and they are valid if every block is. -/

namespace ContractRules

/-! ## One block -/

namespace Outcome

variable {registry : Registry} {block : Block}

theorem ofBlock_requirement (h : block.name = "REQUIREMENT") :
    ofBlock registry block = ofLoad .requirement (Requirement.load registry block) :=
  if_pos h

theorem ofBlock_parameter (h : block.name = "PARAMETER") :
    ofBlock registry block = ofLoad .parameter (Parameter.load block) := by
  rw [ofBlock, h, if_neg (by decide), if_pos rfl]

/-- A block of any other name is passed over, and the log is told. -/
theorem ofBlock_other (hrequirement : block.name ≠ "REQUIREMENT")
    (hparameter : block.name ≠ "PARAMETER") :
    ofBlock registry block = ⟨skipped block.name, [.skipped block.name]⟩ := by
  rw [ofBlock, if_neg hrequirement, if_neg hparameter]
  rfl

/-- What is made of a load fails exactly if the load does. -/
theorem failure?_ofLoad_eq_none_iff {α : Type} {definition : α → Definition}
    {load : Load α} :
    (ofLoad definition load).value.failure? = none ↔
      ∃ value, load.run.value = .ok value := by
  rw [value_ofLoad]
  cases load.run.value with
  | ok value => exact iff_of_true rfl ⟨value, rfl⟩
  | error failure => exact iff_of_false nofun nofun

end Outcome

/-- Whether a block loads, if it is one of those that define something. -/
structure Block.Loads (registry : Registry) (block : Block) : Prop where
  requirement : block.name = "REQUIREMENT" →
    ∃ requirement, (Requirement.load registry block).run.value = .ok requirement
  parameter : block.name = "PARAMETER" →
    ∃ parameter, (Parameter.load block).run.value = .ok parameter

/-- A block fails exactly if it should load and does not. -/
theorem Outcome.failure?_ofBlock_eq_none_iff {registry : Registry} {block : Block} :
    (ofBlock registry block).value.failure? = none ↔ block.Loads registry := by
  by_cases hrequirement : block.name = "REQUIREMENT"
  · rw [ofBlock_requirement hrequirement, failure?_ofLoad_eq_none_iff]
    refine ⟨fun h => ⟨fun _ => h, ?_⟩, fun h => h.requirement hrequirement⟩
    intro hparameter
    rw [hrequirement] at hparameter
    exact absurd hparameter (by decide)
  by_cases hparameter : block.name = "PARAMETER"
  · rw [ofBlock_parameter hparameter, failure?_ofLoad_eq_none_iff]
    exact ⟨fun h => ⟨fun hname => absurd hname hrequirement, fun _ => h⟩,
      fun h => h.parameter hparameter⟩
  · rw [ofBlock_other hrequirement hparameter]
    exact iff_of_true rfl
      ⟨fun hname => absurd hname hrequirement, fun hname => absurd hname hparameter⟩

namespace Contents

/-- What a block comes to if it is all there is. -/
inductive Yields (registry : Registry) (block : Block) : Contents → Prop where
  | requirement (requirement : Requirement) :
      block.name = "REQUIREMENT" →
      (Requirement.load registry block).run.value = .ok requirement →
      Yields registry block ⟨[.requirement requirement], [], []⟩
  | requirementFailure (failure : LoadFailure) :
      block.name = "REQUIREMENT" →
      (Requirement.load registry block).run.value = .error failure →
      Yields registry block ⟨[], [failure], []⟩
  | parameter (parameter : Parameter) :
      block.name = "PARAMETER" →
      (Parameter.load block).run.value = .ok parameter →
      Yields registry block ⟨[.parameter parameter], [], []⟩
  | parameterFailure (failure : LoadFailure) :
      block.name = "PARAMETER" →
      (Parameter.load block).run.value = .error failure →
      Yields registry block ⟨[], [failure], []⟩
  | other :
      block.name ≠ "REQUIREMENT" → block.name ≠ "PARAMETER" →
      Yields registry block ⟨[], [], [block.name]⟩

/-! ## Blocks put together -/

/-- The contents of two documents, one after the other. -/
def append (first second : Contents) : Contents where
  definitions := first.definitions ++ second.definitions
  failures := first.failures ++ second.failures
  skipped := first.skipped ++ second.skipped

/-- Outcomes in a row are sorted one after the other. -/
theorem ofOutcomes_append (first second : List Outcome) :
    ofOutcomes (first ++ second) = (ofOutcomes first).append (ofOutcomes second) := by
  rw [ofOutcomes, List.filterMap_append, List.filterMap_append, List.filterMap_append]
  rfl

/-- Every outcome is sorted into exactly one list. -/
theorem length_ofOutcomes (outcomes : List Outcome) :
    (ofOutcomes outcomes).definitions.length + (ofOutcomes outcomes).failures.length +
      (ofOutcomes outcomes).skipped.length = outcomes.length := by
  induction outcomes with
  | nil => rfl
  | cons outcome rest ih =>
      rw [List.length_cons, ← ih]
      cases outcome with
      | loaded definition =>
          show ((ofOutcomes rest).definitions.length + 1) +
            (ofOutcomes rest).failures.length + (ofOutcomes rest).skipped.length = _
          omega
      | failed failure =>
          show (ofOutcomes rest).definitions.length +
            ((ofOutcomes rest).failures.length + 1) + (ofOutcomes rest).skipped.length = _
          omega
      | skipped name =>
          show (ofOutcomes rest).definitions.length +
            (ofOutcomes rest).failures.length + ((ofOutcomes rest).skipped.length + 1) = _
          omega

/-- The contents of a document are its outcomes, sorted. -/
theorem value_ofBlocks (registry : Registry) (blocks : List Block) :
    (ofBlocks registry blocks).value =
      ofOutcomes (blocks.map fun block => (Outcome.ofBlock registry block).value) := by
  rw [ofBlocks, Logged.value_bind, Logged.all, List.map_map]
  rfl

/-- A document of one block yields what the block comes to. -/
theorem yields_ofBlocks (registry : Registry) (block : Block) :
    Yields registry block (ofBlocks registry [block]).value := by
  rw [value_ofBlocks, List.map_singleton]
  by_cases hrequirement : block.name = "REQUIREMENT"
  · rw [Outcome.ofBlock_requirement hrequirement, Outcome.value_ofLoad]
    cases hload : (Requirement.load registry block).run.value with
    | ok requirement => exact .requirement requirement hrequirement hload
    | error failure => exact .requirementFailure failure hrequirement hload
  by_cases hparameter : block.name = "PARAMETER"
  · rw [Outcome.ofBlock_parameter hparameter, Outcome.value_ofLoad]
    cases hload : (Parameter.load block).run.value with
    | ok parameter => exact .parameter parameter hparameter hload
    | error failure => exact .parameterFailure failure hparameter hload
  · rw [Outcome.ofBlock_other hrequirement hparameter]
    exact .other hrequirement hparameter

/-- A document is valid exactly if every definition in it loads. -/
theorem isValid_ofBlocks_iff {registry : Registry} {blocks : List Block} :
    (ofBlocks registry blocks).value.isValid = true ↔
      ∀ block ∈ blocks, block.Loads registry := by
  rw [value_ofBlocks, isValid, List.isEmpty_iff, ofOutcomes,
    List.filterMap_eq_nil_iff, List.forall_mem_map]
  exact forall₂_congr fun _ _ => Outcome.failure?_ofBlock_eq_none_iff

/-- **A document is its blocks put together.**  Loading goes along with putting
    block lists one after the other, no block is lost or counted twice, each one
    comes to what it comes to by itself, and the document is valid exactly if all
    of its definitions load. -/
theorem ofBlocks_homomorphism (registry : Registry) :
    (∀ first second, (ofBlocks registry (first ++ second)).value =
        (ofBlocks registry first).value.append (ofBlocks registry second).value) ∧
      (∀ blocks, (ofBlocks registry blocks).value.definitions.length +
          (ofBlocks registry blocks).value.failures.length +
          (ofBlocks registry blocks).value.skipped.length = blocks.length) ∧
      (∀ block, Yields registry block (ofBlocks registry [block]).value) ∧
      ∀ blocks, (ofBlocks registry blocks).value.isValid = true ↔
        ∀ block ∈ blocks, block.Loads registry := by
  refine ⟨?_, ?_, yields_ofBlocks registry, fun _ => isValid_ofBlocks_iff⟩
  · intro first second
    simp only [value_ofBlocks, List.map_append, ofOutcomes_append]
  · intro blocks
    rw [value_ofBlocks, length_ofOutcomes, List.length_map]

end Contents

end ContractRules
