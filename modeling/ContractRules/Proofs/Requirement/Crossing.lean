import ContractRules.Proofs.Requirement.Report

/-! # Crossed counts — when a load complains of them

    A definition is asked whether its counts are in order with whatever came out
    of reading them.  For a count that could not be read that is the placeholder
    of its type, which is 0 (`worth_count_eq_iff`).

    A placeholder for the least count is never too large.  One for the greatest
    count is too small for every other least count than 0, so a misspelt greatest
    count is reported twice: once as what it is, and once as a crossing that the
    block does not have (`crossedCounts_mem_problems_loadAs_iff`). -/

namespace ContractRules

/-- What an optional count is worth: what the block gives, or 0 if its first
    value spells no count. -/
theorem Field.worth_count_eq_iff {block : Block} {key : String}
    {default count : UInt32} :
    (optional key default).worth block = count ↔
      block.Gives SpellsCount key default count ∨
        block.countFault? key ≠ none ∧ count = 0 := by
  cases hread : (optional key default).read block with
  | ok read =>
      have hgives := speltBy_count.read_optional_eq_ok_iff.mp hread
      have hfault : block.countFault? key = none :=
        (Block.misspelt?_eq_none_iff default).mpr ⟨read, hgives⟩
      rw [worth_of_ok hread]
      constructor
      · rintro rfl
        exact Or.inl hgives
      · rintro (hcount | ⟨hne, -⟩)
        · exact speltBy_count.gives_unique hgives hcount
        · exact absurd hfault hne
  | error fault =>
      have hworth : (optional key default).worth block = 0 := by
        rw [worth, hread]
        rfl
      -- no count is given, so the field stands at the placeholder
      have hnot : ¬ ∃ count, block.Gives SpellsCount key default count := by
        rintro ⟨count, hgives⟩
        rw [speltBy_count.read_optional_eq_ok_iff.mpr hgives] at hread
        cases hread
      have hfault : block.countFault? key ≠ none := fun h =>
        hnot ((Block.misspelt?_eq_none_iff default).mp h)
      rw [hworth]
      constructor
      · rintro rfl
        exact Or.inr ⟨hfault, rfl⟩
      · rintro (hcount | ⟨-, hzero⟩)
        · exact absurd ⟨count, hcount⟩ hnot
        · exact hzero.symm

namespace Requirement

/-- A crossing is about two fields, so it is the fault of none. -/
theorem crossedCounts_not_mem_definitionFaults (registry : Registry) (block : Block)
    (least greatest : UInt32) :
    .crossedCounts least greatest ∉ definitionFaults registry block := by
  intro h
  have hfield := isSome_field?_of_mem_definitionFaults h
  cases hfield

/-- A load complains of the counts that it goes on with. -/
theorem crossedCounts_mem_problems_loadAs {registry : Registry} {kind : Kind}
    {block : Block} {least greatest : UInt32} :
    .crossedCounts least greatest ∈ (loadAs registry kind block).problems ↔
      (Field.optional "minCount" 1).worth block = least ∧
        (Field.optional "maxCount" unbounded).worth block = greatest ∧
        greatest < least := by
  rw [problems_loadAs, problems_loadSteps, List.mem_append,
    or_iff_right (crossedCounts_not_mem_definitionFaults registry block least greatest)]
  generalize (Field.optional "minCount" (1 : UInt32)).worth block = least'
  generalize (Field.optional "maxCount" unbounded).worth block = greatest'
  by_cases hle : least' ≤ greatest'
  · rw [if_pos hle]
    refine iff_of_false List.not_mem_nil ?_
    rintro ⟨rfl, rfl, hlt⟩
    exact absurd hle (UInt32.not_le.mpr hlt)
  · rw [if_neg hle, List.mem_singleton, Problem.crossedCounts.injEq]
    constructor
    · rintro ⟨rfl, rfl⟩
      exact ⟨rfl, rfl, UInt32.not_le.mp hle⟩
    · rintro ⟨rfl, rfl, -⟩
      exact ⟨rfl, rfl⟩

/-- **When a load complains of crossed counts.**  The least count that it names is
    the one that the block gives.  So is the greatest count, unless that is
    misspelt: then it is named as 0. -/
theorem crossedCounts_mem_problems_loadAs_iff (registry : Registry) (kind : Kind)
    (block : Block) (least greatest : UInt32) :
    .crossedCounts least greatest ∈ (loadAs registry kind block).problems ↔
      block.Gives SpellsCount "minCount" 1 least ∧
        (block.Gives SpellsCount "maxCount" 4294967295 greatest ∨
          block.countFault? "maxCount" ≠ none ∧ greatest = 0) ∧
        greatest < least := by
  rw [crossedCounts_mem_problems_loadAs, Field.worth_count_eq_iff,
    Field.worth_count_eq_iff]
  constructor
  · rintro ⟨hleast | ⟨-, rfl⟩, hgreatest, hlt⟩
    · exact ⟨hleast, hgreatest, hlt⟩
    · -- nothing is less than the placeholder
      exact absurd hlt UInt32.not_lt_zero
  · rintro ⟨hleast, hgreatest, hlt⟩
    exact ⟨Or.inl hleast, hgreatest, hlt⟩

/-- A definition whose only mistake is its greatest count. -/
def garbled : Block :=
  ⟨"REQUIREMENT", [("type", "CompleteContract"), ("tag", "rescue"),
    ("maxCount", "lots")]⟩

/-- A load complains of counts that are crossed, although the block gives no
    greatest count. -/
theorem exists_crossedCounts_of_placeholder :
    .crossedCounts 1 0 ∈ (loadAs .empty .complete garbled).problems ∧
      ¬ ∃ greatest, garbled.Gives SpellsCount "maxCount" 4294967295 greatest := by
  refine ⟨by decide, ?_⟩
  show ¬ ∃ greatest, SpellsCount "lots" greatest
  decide

end Requirement

end ContractRules
