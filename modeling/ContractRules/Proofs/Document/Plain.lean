import ContractRules.Proofs.Document.Attribution
import ContractRules.Proofs.Parameter.Goals
import ContractRules.Proofs.Requirement.Plain

/-! # Plain documents — every outcome of a plain text is plain

    A parameter takes its texts from its block as a requirement does.  A failure has
    an owner as well as problems, and that is the name that its block goes by.  So
    whatever becomes of a plain block is plain (`Outcome.isPlain_ofBlock`), and a
    plain text has plain contents (`Contents.isPlain_of_ofText`). -/

namespace ContractRules

/-! ## Parameters -/

/-- The base of a parameter with plain texts. -/
structure Parameter.Base.IsPlain (base : Base) : Prop where
  name : Text.IsPlain base.name
  kind : Text.IsPlain base.kind
  title : ∀ title, base.title? = some title → Text.IsPlain title

namespace Parameter

variable {block : Block}

theorem Base.isPlain_ofBlock (hblock : block.IsPlain) : (ofBlock block).IsPlain := by
  obtain ⟨hname, hkind⟩ := Identity.isPlain_ofBlock hblock
  exact ⟨hname, hkind, fun title => hblock.first?⟩

/-- A parameter has the base that its block gives. -/
theorem base_of_load {parameter : Parameter}
    (h : (load block).run.value = .ok parameter) : parameter.base = Base.ofBlock block := by
  obtain ⟨kind, -, rfl⟩ := load_eq_ok_iff.mp h
  cases kind <;> rfl

/-- What is wrong with a plain base is put in plain words. -/
theorem Base.plainSteps_loadSteps (hblock : block.IsPlain) :
    Journal.PlainSteps (loadSteps block) := by
  have hflag {name : String} (hname : Text.IsPlain name) :
      Journal.PlainSteps ((Field.optional name false).steps block) :=
    Field.plainSteps_optional Readable.isPlain_flag hblock hname false
  have hoptional : Text.IsPlain "optional" := by decide
  have hhidden : Text.IsPlain "hidden" := by decide
  have hinSequence : Text.IsPlain "completeInSequence" := by decide
  exact (Identity.plainSteps hblock).append
    ((hflag hoptional).append ((hflag hhidden).append (hflag hinSequence)))

/-- A duration that does not last is refused for a plain reason too. -/
theorem isPlain_of_readLasting (raw : List String) {reason : ReadFault}
    (h : readLasting raw = .error reason) : Text.IsPlain reason.message := by
  cases hread : (Readable.read raw : Except ReadFault Seconds) with
  | error other =>
      rw [readLasting_of_error hread] at h
      rw [← Except.error.inj h]
      exact Readable.isPlain_span raw other hread
  | ok duration =>
      rw [readLasting_of_ok hread] at h
      split at h
      · rw [← Except.error.inj h]
        decide
      · cases h

/-- **A plain block reports plain problems as a parameter.** -/
theorem isPlain_load (hblock : block.IsPlain) : (load block).IsPlain := by
  have hbase := Base.plainSteps_loadSteps hblock
  refine Load.IsPlain.bind ?_ fun kind _ => ?_
  · exact (Identity.does_knownKind _ _ block).isPlain_conclude
      (Identity.plainSteps_known _ (fun _ => Problem.isPlain_unknownParameter) hblock) _
  cases kind with
  | vesselGroup =>
      have hduration := Field.plainSteps_optional Readable.isPlain_span hblock
        (show Text.IsPlain "duration" by decide) Seconds.unlimited
      exact (((VesselGroup.does_reading block).map some).isPlain_conclude
        (hbase.append hduration) _).map _
  | timer =>
      have hduration : Journal.PlainSteps (Timer.durationField.steps block) :=
        Field.plainSteps hblock (by decide) fun raw _ => isPlain_of_readLasting raw
      exact (((Timer.does_reading block).map some).isPlain_conclude
        (hbase.append hduration) _).map _

end Parameter

/-! ## Failures -/

/-- A failure that names a plain owner and has plain problems. -/
structure LoadFailure.IsPlain (failure : LoadFailure) : Prop where
  owner : Text.IsPlain failure.owner
  problems : ∀ diagnostic ∈ failure.diagnostics, diagnostic.problem.IsPlain

/-- What a plain block goes by is plain. -/
theorem Block.GoesBy.isPlain {kinds : List String} {block : Block} {owner : String}
    (h : block.GoesBy kinds owner) (hblock : block.IsPlain) : Text.IsPlain owner := by
  cases h with
  | untyped | unknown => exact hblock.name
  | named _ _ hname _ => exact hblock.first? hname
  | nameless hkind => exact hblock.first? hkind

/-! ## Outcomes -/

/-- What becomes of a block is plain. -/
def Outcome.IsPlain : Outcome → Prop
  | loaded (.requirement requirement) => requirement.IsPlain
  | loaded (.parameter parameter) => parameter.base.IsPlain
  | failed failure => failure.IsPlain
  | skipped name => Text.IsPlain name

/-- **Whatever becomes of a plain block is plain.** -/
theorem Outcome.isPlain_ofBlock {registry : Registry} {block : Block}
    (hregistry : registry.IsPlain) (hblock : block.IsPlain) :
    (ofBlock registry block).value.IsPlain := by
  by_cases hrequirement : block.name = "REQUIREMENT"
  · rw [ofBlock_requirement hrequirement, value_ofLoad]
    cases hload : (Requirement.load registry block).run.value with
    | ok requirement =>
        exact (Requirement.load_eq_ok_iff.mp hload).isPlain hregistry hblock
    | error failure =>
        exact ⟨(Requirement.isOf_load hload).goesBy.isPlain hblock,
          (Requirement.isPlain_load registry hblock).of_error hload⟩
  by_cases hparameter : block.name = "PARAMETER"
  · rw [ofBlock_parameter hparameter, value_ofLoad]
    cases hload : (Parameter.load block).run.value with
    | ok parameter =>
        show parameter.base.IsPlain
        rw [Parameter.base_of_load hload]
        exact Parameter.Base.isPlain_ofBlock hblock
    | error failure =>
        exact ⟨(Parameter.isOf_load hload).goesBy.isPlain hblock,
          (Parameter.isPlain_load hblock).of_error hload⟩
  · rw [ofBlock_other hrequirement hparameter]
    exact hblock.name

namespace Contents

/-- Contents that came of plain outcomes. -/
structure IsPlain (contents : Contents) : Prop where
  requirements : ∀ requirement ∈ contents.requirements, requirement.IsPlain
  parameters : ∀ parameter ∈ contents.parameters, parameter.base.IsPlain
  failures : ∀ failure ∈ contents.failures, failure.IsPlain
  skipped : ∀ name ∈ contents.skipped, Text.IsPlain name

/-- Sorting plain outcomes gives plain contents. -/
theorem isPlain_ofOutcomes {outcomes : List Outcome}
    (h : ∀ outcome ∈ outcomes, outcome.IsPlain) : (ofOutcomes outcomes).IsPlain := by
  induction outcomes with
  | nil =>
      exact ⟨List.forall_mem_nil _, List.forall_mem_nil _, List.forall_mem_nil _,
        List.forall_mem_nil _⟩
  | cons outcome rest ih =>
      obtain ⟨houtcome, hrest⟩ := List.forall_mem_cons.mp h
      obtain ⟨hrequirements, hparameters, hfailures, hskipped⟩ := ih hrest
      match outcome, houtcome with
      | .loaded (.requirement _), houtcome =>
          exact ⟨List.forall_mem_cons.mpr ⟨houtcome, hrequirements⟩, hparameters,
            hfailures, hskipped⟩
      | .loaded (.parameter _), houtcome =>
          exact ⟨hrequirements, List.forall_mem_cons.mpr ⟨houtcome, hparameters⟩,
            hfailures, hskipped⟩
      | .failed _, houtcome =>
          exact ⟨hrequirements, hparameters,
            List.forall_mem_cons.mpr ⟨houtcome, hfailures⟩, hskipped⟩
      | .skipped _, houtcome =>
          exact ⟨hrequirements, hparameters, hfailures,
            List.forall_mem_cons.mpr ⟨houtcome, hskipped⟩⟩

/-- **A plain text has plain contents.** -/
theorem isPlain_of_ofText {registry : Registry} {text : String}
    {contents : Logged Contents} (h : ofText registry text = .ok contents)
    (hregistry : registry.IsPlain) (htext : Text.IsPlain text) :
    contents.value.IsPlain := by
  rw [ofText] at h
  cases hblocks : Block.ofText text with
  | error fault =>
      rw [hblocks] at h
      cases h
  | ok blocks =>
      rw [hblocks] at h
      rw [← Except.ok.inj h, value_ofBlocks]
      refine isPlain_ofOutcomes ?_
      rw [List.forall_mem_map]
      exact fun block hmem => Outcome.isPlain_ofBlock hregistry
        (Block.isPlain_of_ofText hblocks htext block hmem)

end Contents

end ContractRules
