import ContractRules.Document
import ContractRules.Proofs.Journal.Steps

/-! # Contents — where the definitions of a document come from

    The contents of a document are sorted outcomes, one for each block.  So a
    definition is there exactly if some block came out as it
    (`Contents.mem_definitions_iff`), and a requirement comes out of a block
    exactly if the block has the name of requirements and loads as it
    (`Outcome.ofBlock_eq_requirement_iff`). -/

namespace ContractRules

namespace Outcome

/-- What became of a block is what became of its load. -/
theorem value_ofLoad {α : Type} (definition : α → Definition) (load : Load α) :
    (ofLoad definition load).value =
      match load.run.value with
      | .ok value => loaded (definition value)
      | .error failure => failed failure := by
  rw [ofLoad, Logged.value_bind]
  cases load.run.value <;> rfl

/-- An outcome holds the definition of a load exactly if the load gave it. -/
theorem ofLoad_eq_loaded_iff {α : Type} {definition : α → Definition}
    {load : Load α} {found : Definition} :
    (ofLoad definition load).value = loaded found ↔
      ∃ value, load.run.value = .ok value ∧ definition value = found := by
  rw [value_ofLoad]
  cases load.run.value with
  | ok value => simp
  | error failure => simp

/-- A requirement comes out of the blocks that are named for requirements and
    load as it. -/
theorem ofBlock_eq_requirement_iff {registry : Registry} {block : Block}
    {requirement : Requirement} :
    (ofBlock registry block).value = loaded (.requirement requirement) ↔
      block.name = "REQUIREMENT" ∧
        (Requirement.load registry block).run.value = .ok requirement := by
  rw [ofBlock]
  by_cases hname : block.name = "REQUIREMENT"
  · rw [if_pos hname, ofLoad_eq_loaded_iff]
    constructor
    · rintro ⟨value, hload, heq⟩
      rw [Definition.requirement.inj heq] at hload
      exact ⟨hname, hload⟩
    · rintro ⟨-, hload⟩
      exact ⟨requirement, hload, rfl⟩
  · rw [if_neg hname]
    refine iff_of_false ?_ fun h => hname h.1
    intro h
    by_cases hparameter : block.name = "PARAMETER"
    · rw [if_pos hparameter] at h
      obtain ⟨value, -, heq⟩ := ofLoad_eq_loaded_iff.mp h
      cases heq
    · rw [if_neg hparameter] at h
      cases h

end Outcome

namespace Contents

/-- A definition is in a document exactly if a block came out as it. -/
theorem mem_definitions_iff {registry : Registry} {blocks : List Block}
    {definition : Definition} :
    definition ∈ (ofBlocks registry blocks).value.definitions ↔
      ∃ block ∈ blocks,
        (Outcome.ofBlock registry block).value = .loaded definition := by
  rw [show (ofBlocks registry blocks).value.definitions =
    ((blocks.map (Outcome.ofBlock registry)).map (·.value)).filterMap
      Outcome.definition? from rfl, List.mem_filterMap]
  constructor
  · rintro ⟨outcome, hmem, hdefinition⟩
    obtain ⟨logged, hlogged, rfl⟩ := List.mem_map.mp hmem
    obtain ⟨block, hblock, rfl⟩ := List.mem_map.mp hlogged
    refine ⟨block, hblock, ?_⟩
    -- only what came out as a definition is kept as one
    cases h : (Outcome.ofBlock registry block).value with
    | loaded found =>
        rw [h] at hdefinition
        exact congrArg Outcome.loaded (Option.some.inj hdefinition)
    | failed failure =>
        rw [h] at hdefinition
        cases hdefinition
    | skipped name =>
        rw [h] at hdefinition
        cases hdefinition
  · rintro ⟨block, hblock, h⟩
    refine ⟨.loaded definition, ?_, rfl⟩
    rw [← h]
    exact List.mem_map_of_mem (List.mem_map_of_mem hblock)

/-- The requirements of a text are those that its blocks define. -/
theorem exists_block_of_mem {registry : Registry} {text : String}
    {contents : Logged Contents} (h : ofText registry text = .ok contents)
    {requirement : Requirement}
    (hmem : Definition.requirement requirement ∈ contents.value.definitions) :
    ∃ blocks, Block.ofText text = .ok blocks ∧ ∃ block ∈ blocks,
      (Requirement.load registry block).run.value = .ok requirement := by
  rw [ofText] at h
  cases hblocks : Block.ofText text with
  | error fault =>
      rw [hblocks] at h
      cases h
  | ok blocks =>
      rw [hblocks] at h
      rw [← Except.ok.inj h] at hmem
      obtain ⟨block, hblock, houtcome⟩ := mem_definitions_iff.mp hmem
      exact ⟨blocks, rfl, block, hblock,
        (Outcome.ofBlock_eq_requirement_iff.mp houtcome).2⟩

end Contents

end ContractRules
