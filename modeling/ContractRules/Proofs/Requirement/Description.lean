import ContractRules.Proofs.Requirement.Steps

/-! # What a block says of a requirement

    Loading a definition and restoring saved state are two readings.  Here is
    what each of them succeeds on, said field by field and without a reading: a
    requirement is `DefinedBy` a block, or it is `SavedIn` one.  Both share all
    but the counts (`DescribedBy`): a definition may leave them out and must not
    cross them, saved state must have them.

    The main statements are `load_eq_ok_iff` and `restore_eq_ok_iff`.  All later
    facts about requirements start from the descriptions. -/

namespace ContractRules

open Reading

namespace Requirement

/-- The base that a block gives, field by field: the kind must be there, the name
    is the kind without one of its own, and the flags must read. -/
structure Base.GivenBy (base : Base) (block : Block) : Prop where
  kind : block.first? Identity.kindField = some base.kind
  name : base.name = (block.first? "name").getD base.kind
  inverted : (Field.optional "invertRequirement" false).read block =
    .ok base.inverted
  checkedWhileActive : (Field.optional "checkOnActiveContract" true).read block =
    .ok base.checkedWhileActive
  title : base.title? = block.first? "title"

/-- What a block says of a requirement besides its counts. -/
structure DescribedBy (requirement : Requirement) (registry : Registry)
    (block : Block) : Prop where
  base : requirement.base.GivenBy block
  kind : Kind.ofName? requirement.base.kind = some requirement.kind
  target : Target.named? registry block (block.first? "tag") =
    some requirement.target

/-- A definition of a requirement may leave out the counts, and they must not be
    crossed. -/
structure DefinedBy (requirement : Requirement) (registry : Registry)
    (block : Block) : Prop extends requirement.DescribedBy registry block where
  least : (Field.optional "minCount" 1).read block = .ok requirement.least
  greatest : (Field.optional "maxCount" unbounded).read block =
    .ok requirement.greatest
  ordered : requirement.least ≤ requirement.greatest

/-- Saved state of a requirement must have the counts. -/
structure SavedIn (requirement : Requirement) (registry : Registry)
    (block : Block) : Prop extends requirement.DescribedBy registry block where
  least : (Field.required "minCount").read block = .ok requirement.least
  greatest : (Field.required "maxCount").read block = .ok requirement.greatest

end Requirement

/-! ## Harmless steps -/

open Journal in
/-- An identity is read without a problem exactly when its kind is there. -/
theorem Identity.harmless_iff {block : Block} :
    (Identity.steps block).all Step.isHarmless = true ↔
      ∃ kind, block.first? kindField = some kind := by
  have hrename : (if (ofBlock block).name ≠ "" then
      [Step.rename (ofBlock block).name] else []).all Step.isHarmless = true := by
    split <;> rfl
  rw [Identity.steps, List.all_append, hrename, Bool.and_true, Field.steps,
    Field.read_required_text]
  cases block.first? kindField with
  | none => simp [Step.isHarmless]
  | some kind => simp

/-- A target is read without a problem exactly when the block names one. -/
theorem Target.harmless_iff {registry : Registry} {block : Block}
    {tag? : Option String} :
    (loadSteps registry block tag?).all Journal.Step.isHarmless = true ↔
      (named? registry block tag?).isSome = true := by
  cases tag? with
  | some name => exact iff_of_true rfl rfl
  | none =>
      rw [loadSteps, named?]
      cases block.first? Problem.typeField with
      | none => exact iff_of_false Bool.false_ne_true Bool.false_ne_true
      | some identifier =>
          rw [Option.bind_some]
          show (resolveSteps registry identifier).all _ = true ↔ _
          rw [resolveSteps]
          cases registry.resolve? identifier with
          | none => exact iff_of_false Bool.false_ne_true Bool.false_ne_true
          | some ref =>
              cases registry.isShadowed identifier <;> exact iff_of_true rfl rfl

namespace Requirement

/-- A base is read without a problem exactly when the block gives it, and then
    it is the base that the block gives. -/
theorem Base.givenBy_iff {base : Base} {block : Block} :
    base.GivenBy block ↔
      (Base.loadSteps block).all Journal.Step.isHarmless = true ∧
        Base.ofBlock block = base := by
  rw [Base.loadSteps, List.all_append, List.all_append, Bool.and_eq_true,
    Bool.and_eq_true, Identity.harmless_iff]
  have htitle : (Field.optional "title" none).worth block = block.first? "title" :=
    Field.worth_of_ok (Field.read_optional_text? "title" block)
  constructor
  · rintro ⟨hkind, hname, hinverted, hchecked, htitle'⟩
    obtain ⟨hinvertedSteps, hinvertedWorth⟩ := Field.read_eq_ok_iff.mp hinverted
    obtain ⟨hcheckedSteps, hcheckedWorth⟩ := Field.read_eq_ok_iff.mp hchecked
    refine ⟨⟨⟨base.kind, hkind⟩, hinvertedSteps, hcheckedSteps⟩, ?_⟩
    rw [Base.ofBlock, Identity.ofBlock_eq hkind, hinvertedWorth, hcheckedWorth,
      htitle, ← hname, ← htitle']
  · rintro ⟨⟨⟨kind, hkind⟩, hinverted, hchecked⟩, rfl⟩
    have hidentity := Identity.ofBlock_eq hkind
    refine ⟨?_, ?_, Field.read_eq_ok_iff.mpr ⟨hinverted, rfl⟩,
      Field.read_eq_ok_iff.mpr ⟨hchecked, rfl⟩, htitle⟩
    · rw [Base.ofBlock, hidentity]
      exact hkind
    · rw [Base.ofBlock, hidentity]

/-! ## Loading -/

/-- The kind of a definition is found exactly when the block names it. -/
theorem conclude_knownKind_eq_ok_iff {block : Block} {owner : String}
    {kind : Kind} :
    ((knownKind block).conclude owner).run.value = .ok kind ↔
      (block.first? Identity.kindField).bind Kind.ofName? = some kind :=
  Identity.conclude_knownKind_eq_ok_iff

/-- What is told in the end does not change what is loaded. -/
theorem loadAs_eq_ok_iff {registry : Registry} {kind : Kind} {block : Block}
    {requirement : Requirement} :
    (loadAs registry kind block).run.value = .ok requirement ↔
      ((reading registry kind block).conclude kind.name).run.value =
        .ok requirement := by
  rw [loadAs, Load.bind_eq_ok_iff]
  constructor
  · rintro ⟨built, hbuilt, hlast⟩
    obtain rfl : built = requirement := Except.ok.inj hlast
    exact hbuilt
  · intro h
    exact ⟨requirement, h, rfl⟩

/-- **A definition loads exactly as the requirement that it defines.** -/
theorem load_eq_ok_iff {registry : Registry} {block : Block}
    {requirement : Requirement} :
    (load registry block).run.value = .ok requirement ↔
      requirement.DefinedBy registry block := by
  rw [load, Load.bind_eq_ok_iff]
  simp only [conclude_knownKind_eq_ok_iff, loadAs_eq_ok_iff,
    (does_reading registry _ block).conclude_eq_ok_iff, Option.map_eq_some_iff]
  constructor
  · rintro ⟨kind, hkind, ⟨target, htarget, rfl⟩, hsteps⟩
    simp only [loadSteps, List.all_append, Bool.and_eq_true] at hsteps
    obtain ⟨hbase, -, hleast, hgreatest, hordered⟩ := hsteps
    have hgiven := Base.givenBy_iff.mpr ⟨hbase, rfl⟩
    rw [hgiven.kind, Option.bind_some] at hkind
    refine ⟨⟨hgiven, hkind, htarget⟩, Field.read_eq_ok_iff.mpr ⟨hleast, rfl⟩,
      Field.read_eq_ok_iff.mpr ⟨hgreatest, rfl⟩, ?_⟩
    -- the last step reports unless the counts are in order
    by_cases hle : (Field.optional "minCount" 1).worth block ≤
        (Field.optional "maxCount" unbounded).worth block
    · exact hle
    · rw [if_neg hle] at hordered
      cases hordered
  · intro h
    obtain ⟨hbase, heq⟩ := Base.givenBy_iff.mp h.base
    obtain ⟨hleast, hleastWorth⟩ := Field.read_eq_ok_iff.mp h.least
    obtain ⟨hgreatest, hgreatestWorth⟩ := Field.read_eq_ok_iff.mp h.greatest
    refine ⟨requirement.kind, ?_, ⟨requirement.target, h.target, ?_⟩, ?_⟩
    · rw [h.base.kind]
      exact h.kind
    · rw [heq, hleastWorth, hgreatestWorth]
    · have htarget : (Target.loadSteps registry block (block.first? "tag")).all
          Journal.Step.isHarmless = true := by
        rw [Target.harmless_iff, h.target]
        rfl
      rw [loadSteps, List.all_append, List.all_append, List.all_append,
        List.all_append, hbase, htarget, hleast, hgreatest, hleastWorth,
        hgreatestWorth, if_pos h.ordered]
      rfl

/-! ## Restoring -/

/-- Saved state resumes exactly when the counts, the flag and the target are
    read. -/
theorem restore_eq_ok_iff {registry : Registry} {block : Block}
    {requirement : Requirement} :
    (restore registry block).run.value = .ok requirement ↔
      requirement.SavedIn registry block := by
  rw [restore, Load.bind_eq_ok_iff]
  simp only [resume, (does_savedKind block).conclude_eq_ok_iff,
    (does_stateReading registry _ _ block).conclude_eq_ok_iff,
    Option.map_eq_some_iff]
  constructor
  · -- the two halves of restoring report between them all that a base can lack
    rintro ⟨_, ⟨⟨kind, hkind, rfl⟩, hsaved⟩, ⟨target, htarget, rfl⟩, hstate⟩
    simp only [savedKindSteps, Base.restoreSteps, stateSteps, List.all_append,
      Bool.and_eq_true] at hsaved hstate
    obtain ⟨⟨hidentity, hinverted⟩, -⟩ := hsaved
    obtain ⟨hleast, hgreatest, hchecked, -⟩ := hstate
    have hbase : (Base.loadSteps block).all Journal.Step.isHarmless = true := by
      rw [Base.loadSteps, List.all_append, List.all_append, hidentity, hinverted,
        hchecked]
      rfl
    exact ⟨⟨Base.givenBy_iff.mpr ⟨hbase, rfl⟩, hkind, htarget⟩,
      Field.read_eq_ok_iff.mpr ⟨hleast, rfl⟩,
      Field.read_eq_ok_iff.mpr ⟨hgreatest, rfl⟩⟩
  · intro h
    obtain ⟨hbase, heq⟩ := Base.givenBy_iff.mp h.base
    rw [Base.loadSteps, List.all_append, List.all_append, Bool.and_eq_true,
      Bool.and_eq_true] at hbase
    obtain ⟨hidentity, hinverted, hchecked⟩ := hbase
    obtain ⟨hleast, hleastWorth⟩ := Field.read_eq_ok_iff.mp h.least
    obtain ⟨hgreatest, hgreatestWorth⟩ := Field.read_eq_ok_iff.mp h.greatest
    have htarget : (Target.loadSteps registry block (block.first? "tag")).all
        Journal.Step.isHarmless = true := by
      rw [Target.harmless_iff, h.target]
      rfl
    have hkind : Kind.ofName? (Base.ofBlock block).kind = some requirement.kind := by
      rw [heq]
      exact h.kind
    refine ⟨_, ⟨⟨requirement.kind, hkind, rfl⟩, ?_⟩,
      ⟨requirement.target, h.target, ?_⟩, ?_⟩
    · rw [savedKindSteps, Base.restoreSteps, List.all_append, List.all_append,
        hidentity, hinverted, hkind]
      simp
    · -- the flag that the base left out is the one that the block gives
      rw [hleastWorth, hgreatestWorth]
      exact congrArg (fun base => Requirement.mk base requirement.kind
        requirement.target requirement.least requirement.greatest) heq
    · rw [stateSteps, List.all_append, List.all_append, List.all_append, hleast,
        hgreatest, hchecked, htarget]
      rfl

end Requirement

end ContractRules
