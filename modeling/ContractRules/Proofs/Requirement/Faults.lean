import ContractRules.Proofs.Registry.Knowledge
import ContractRules.Proofs.Requirement.Description

/-! # Faults of requirements — what a reading has to report of a block

    The faults of a block are listed field by field, in the order in which the
    fields are read, and from the block and the registry alone: `definitionFaults`
    for a definition, `savedFaults` for saved state.  That the steps of a reading
    report just these is put together here from the faults of single fields.

    A definition is also asked whether its counts are in order.  That is no fault
    of a field, and placeholders can cross them, so the report says more than the
    block does there (`problems_loadSteps`).  Without a fault in the counts the
    two agree (`countsOrdered_iff`). -/

namespace ContractRules

open Reading

/-! ## The target -/

namespace Target

/-- The fault of a target: without a tag the contract type has to be there, and
    the registry has to know it. -/
def fault? (registry : Registry) (block : Block) : Option Problem :=
  if block.has "tag" then none
  else
    match block.first? Problem.typeField with
    | none => some (.field (.missing Problem.typeField))
    | some identifier =>
      if registry.Knows identifier then none else some (.unresolvedType identifier)

/-- A fault of the target names the field of contract types. -/
theorem field?_of_fault? {registry : Registry} {block : Block} {fault : Problem}
    (h : fault? registry block = some fault) :
    fault.field? = some Problem.typeField := by
  rw [fault?] at h
  split at h
  · cases h
  split at h
  · rw [← Option.some.inj h]
    rfl
  split at h
  · cases h
  · rw [← Option.some.inj h]
    rfl

/-- Loading the target reports its fault. -/
theorem problems_loadSteps (registry : Registry) (block : Block) :
    Journal.problems (loadSteps registry block (block.first? "tag")) =
      (fault? registry block).toList := by
  rw [fault?, Block.has]
  cases block.first? "tag" with
  | some name => rfl
  | none =>
      rw [Option.isSome_none, if_neg Bool.false_ne_true, loadSteps]
      cases block.first? Problem.typeField with
      | none => rfl
      | some identifier =>
          show Journal.problems (resolveSteps registry identifier) =
            (if registry.Knows identifier then none else some _).toList
          rw [resolveSteps]
          have hknows : (registry.resolve? identifier).isSome = true ↔
              registry.Knows identifier := Registry.isSome_resolve?_iff
          cases hresolve : registry.resolve? identifier with
          | none =>
              rw [hresolve] at hknows
              rw [if_neg fun h => Bool.false_ne_true (hknows.mpr h)]
              rfl
          | some ref =>
              rw [hresolve] at hknows
              rw [if_pos (hknows.mp rfl)]
              -- a shadowed identifier is logged, which is no problem
              cases registry.isShadowed identifier <;> rfl

/-- A block names a target exactly if the target has no fault. -/
theorem isSome_named?_iff {registry : Registry} {block : Block} :
    (named? registry block (block.first? "tag")).isSome = true ↔
      fault? registry block = none := by
  rw [← harmless_iff, Journal.all_isHarmless_iff, problems_loadSteps]
  exact Option.toList_eq_nil_iff

end Target

namespace Requirement

/-! ## Definitions -/

/-- What is wrong with the fields of a definition: at most one fault for each of
    them, in the order in which they are read. -/
def definitionFaults (registry : Registry) (block : Block) : List Problem :=
  [block.missing? "type",
   block.flagFault? "invertRequirement",
   block.flagFault? "checkOnActiveContract",
   Target.fault? registry block,
   block.countFault? "minCount",
   block.countFault? "maxCount"].reduceOption

/-- The counts that a block gives, defaults included, are in order. -/
def CountsOrdered (block : Block) : Prop :=
  ∃ least greatest, block.Gives SpellsCount "minCount" 1 least ∧
    block.Gives SpellsCount "maxCount" 4294967295 greatest ∧ least ≤ greatest

/-- What is wrong with the fields of saved state besides the base. -/
def stateFaults (registry : Registry) (block : Block) : List Problem :=
  [block.requiredCountFault? "minCount",
   block.requiredCountFault? "maxCount",
   block.flagFault? "checkOnActiveContract",
   Target.fault? registry block].reduceOption

/-- What is wrong with the fields of saved state that names its kind. -/
def savedFaults (registry : Registry) (block : Block) : List Problem :=
  (block.flagFault? "invertRequirement").toList ++ stateFaults registry block

/-- A definition is without fault exactly if none of its fields has one. -/
theorem definitionFaults_eq_nil_iff {registry : Registry} {block : Block} :
    definitionFaults registry block = [] ↔
      block.missing? "type" = none ∧ block.flagFault? "invertRequirement" = none ∧
        block.flagFault? "checkOnActiveContract" = none ∧
        Target.fault? registry block = none ∧
        block.countFault? "minCount" = none ∧
        block.countFault? "maxCount" = none := by
  simp only [definitionFaults, reduceOption_cons, List.reduceOption_nil,
    List.append_eq_nil_iff, Option.toList_eq_nil_iff, and_true]

/-- Every fault of a definition names its field. -/
theorem isSome_field?_of_mem_definitionFaults {registry : Registry} {block : Block}
    {fault : Problem} (h : fault ∈ definitionFaults registry block) :
    fault.field?.isSome = true := by
  rw [definitionFaults, List.reduceOption_mem_iff] at h
  simp only [List.mem_cons, List.not_mem_nil, or_false] at h
  rcases h with h | h | h | h | h | h
  · rw [Block.field?_of_missing? h.symm]; rfl
  · rw [Block.field?_of_misspelt? h.symm]; rfl
  · rw [Block.field?_of_misspelt? h.symm]; rfl
  · rw [Target.field?_of_fault? h.symm]; rfl
  · rw [Block.field?_of_misspelt? h.symm]; rfl
  · rw [Block.field?_of_misspelt? h.symm]; rfl

/-- Loading the base reports the kind and the two flags, in this order. -/
theorem Base.problems_loadSteps (block : Block) :
    Journal.problems (loadSteps block) =
      (block.missing? "type").toList ++
        ((block.flagFault? "invertRequirement").toList ++
          (block.flagFault? "checkOnActiveContract").toList) := by
  rw [loadSteps, Journal.problems_append, Journal.problems_append,
    Identity.problems_steps, Field.problems_optional_flag,
    Field.problems_optional_flag]
  rfl

/-- Reading a definition reports the faults of its fields, and then whether the
    counts that it goes on with are crossed. -/
theorem problems_loadSteps (registry : Registry) (block : Block) :
    Journal.problems (loadSteps registry block) =
      definitionFaults registry block ++
        if (Field.optional "minCount" 1).worth block ≤
            (Field.optional "maxCount" unbounded).worth block then []
        else [.crossedCounts ((Field.optional "minCount" 1).worth block)
          ((Field.optional "maxCount" unbounded).worth block)] := by
  simp only [loadSteps, Journal.problems_append, Base.problems_loadSteps,
    Target.problems_loadSteps, Field.problems_optional_count, definitionFaults,
    reduceOption_cons, List.reduceOption_nil, List.append_nil, List.append_assoc]
  split <;> rfl

/-- Reading a saved state reports the faults of that state. -/
theorem problems_stateSteps (registry : Registry) (block : Block) :
    Journal.problems (stateSteps registry block) = stateFaults registry block := by
  simp only [stateSteps, Journal.problems_append, Field.problems_required_count,
    Field.problems_optional_flag, Target.problems_loadSteps, stateFaults,
    reduceOption_cons, List.reduceOption_nil, List.append_nil]

/-- Saved state that names a kind can only be wrong in one field of its base. -/
theorem problems_savedKindSteps {block : Block} {name : String} {kind : Kind}
    (hname : block.first? "type" = some name) (hkind : Kind.ofName? name = some kind) :
    Journal.problems (savedKindSteps block) =
      (block.flagFault? "invertRequirement").toList := by
  have hknown : (Kind.ofName? (Base.ofBlock block).kind).isSome = true := by
    rw [Base.ofBlock, Identity.ofBlock_eq hname, hkind]
    rfl
  rw [savedKindSteps, if_pos (Or.inr hknown), List.append_nil, Base.restoreSteps,
    Journal.problems_append, Identity.problems_steps, Field.problems_optional_flag,
    show block.missing? Identity.kindField = none from
      Block.missing?_eq_none_iff.mpr ⟨name, hname⟩]
  rfl

/-! ## The counts -/

/-- Whatever counts a block gives, they tell whether its counts are in order. -/
theorem countsOrdered_iff_of_gives {block : Block} {least greatest : UInt32}
    (hleast : block.Gives SpellsCount "minCount" 1 least)
    (hgreatest : block.Gives SpellsCount "maxCount" unbounded greatest) :
    CountsOrdered block ↔ least ≤ greatest := by
  constructor
  · rintro ⟨least', greatest', hleast', hgreatest', hle⟩
    rwa [speltBy_count.gives_unique hleast' hleast,
      speltBy_count.gives_unique hgreatest' hgreatest] at hle
  · intro hle
    exact ⟨least, greatest, hleast, hgreatest, hle⟩

/-- Counts without a fault are in order exactly if the counts that are read are. -/
theorem countsOrdered_iff {block : Block}
    (hleast : block.countFault? "minCount" = none)
    (hgreatest : block.countFault? "maxCount" = none) :
    CountsOrdered block ↔ (Field.optional "minCount" 1).worth block ≤
      (Field.optional "maxCount" unbounded).worth block := by
  obtain ⟨least, hleast⟩ := (Block.misspelt?_eq_none_iff 1).mp hleast
  obtain ⟨greatest, hgreatest⟩ := (Block.misspelt?_eq_none_iff unbounded).mp hgreatest
  rw [Field.worth_of_ok (speltBy_count.read_optional_eq_ok_iff.mpr hleast),
    Field.worth_of_ok (speltBy_count.read_optional_eq_ok_iff.mpr hgreatest)]
  exact countsOrdered_iff_of_gives hleast hgreatest

end Requirement

end ContractRules
