import ContractRules.Proofs.Definition.Attribution
import ContractRules.Proofs.Requirement.Evaluation
import ContractRules.Proofs.Requirement.Report

/-! # Attribution of requirements — whose problems loading and restoring report

    A requirement is renamed where its identity is read and nowhere else, so a
    definition that fails does so under the one name that it goes by
    (`Requirement.isOf_load`).

    Restoring runs two loads in a row.  The first one begins under the name of the
    block and takes over a name only if it is not empty.  The second one takes the
    name of the base as it is, and an empty name is among the names that a base can
    have.  So a failure is without a name exactly if such a state is resumed
    (`Requirement.ownedBy_restore`). -/

namespace ContractRules

/-! ## Steps that give no name -/

/-- Looking for the target renames nothing. -/
theorem Target.names_loadSteps (registry : Registry) (block : Block)
    (tag? : Option String) : Journal.names (loadSteps registry block tag?) = [] := by
  cases tag? with
  | some name => rfl
  | none =>
      rw [loadSteps]
      cases block.first? Problem.typeField with
      | none => rfl
      | some identifier =>
          show Journal.names (resolveSteps registry identifier) = []
          rw [resolveSteps]
          cases registry.resolve? identifier with
          | none => rfl
          | some ref => cases registry.isShadowed identifier <;> rfl

/-- An identity gives no other name than its own, and not the empty one. -/
theorem Identity.ne_empty_of_mem_names {block : Block} {name : String}
    (h : name ∈ Journal.names (steps block)) : name ≠ "" := by
  rw [steps, Journal.names_append, Field.names_steps, List.nil_append] at h
  by_cases hempty : (ofBlock block).name = ""
  · rw [if_neg (not_not_intro hempty)] at h
    cases h
  · rw [if_pos hempty] at h
    rw [List.mem_singleton.mp h]
    exact hempty

namespace Requirement

variable {registry : Registry} {block : Block} {failure : LoadFailure}

/-- Behind its identity nothing in a definition gives a name. -/
theorem exists_loadSteps_eq (registry : Registry) (block : Block) :
    ∃ rest, loadSteps registry block = Identity.steps block ++ rest ∧
      Journal.names rest = [] := by
  rw [loadSteps, Base.loadSteps, List.append_assoc]
  refine ⟨_, rfl, ?_⟩
  simp only [Journal.names_append, Field.names_steps, Target.names_loadSteps,
    Journal.names_report, List.append_nil]

theorem names_stateSteps (registry : Registry) (block : Block) :
    Journal.names (stateSteps registry block) = [] := by
  simp only [stateSteps, Journal.names_append, Field.names_steps,
    Target.names_loadSteps, List.append_nil]

theorem names_savedKindSteps (block : Block) :
    Journal.names (savedKindSteps block) = Journal.names (Identity.steps block) := by
  simp only [savedKindSteps, Base.restoreSteps, Journal.names_append,
    Field.names_steps, Journal.names_report, List.append_nil]

/-! ## Loading -/

theorem Kind.name_ne_empty (kind : Kind) : kind.name ≠ "" := by
  cases kind with
  | complete => decide
  | accept => decide

/-- **A requirement that fails does so under one name.** -/
theorem isOf_load (h : (load registry block).run.value = .error failure) :
    failure.IsOf ["CompleteContract", "AcceptContract"] block := by
  refine Identity.isOf_of_load (fun _ => Identity.isSome_find?_iff) ?_ h
  intro name kind hfirst hmem hname hload
  obtain rfl : name = kind.name := Kind.ofName?_eq_some_iff.mp hname
  obtain ⟨rest, hsteps, hrest⟩ := exists_loadSteps_eq registry block
  have hdoes := does_reading registry kind block
  rw [hsteps] at hdoes
  -- once a requirement is built, telling the log of it does not fail
  obtain hreading | ⟨requirement, -, htell⟩ := Load.bind_eq_error_cases hload
  · exact Identity.isOf_conclude hdoes hrest hfirst hmem hreading
  · cases htell

/-! ## Restoring -/

/-- The base of saved state is taken over exactly if its kind is known and its flag
    is not misspelt. -/
theorem conclude_savedKind_eq_ok_iff {base : Base} {kind : Kind} :
    ((savedKind block).conclude block.name).run.value = .ok (base, kind) ↔
      block.first? "type" = some kind.name ∧
        block.flagFault? "invertRequirement" = none ∧
        base = { Base.ofBlock block with checkedWhileActive := true } := by
  constructor
  · intro h
    obtain ⟨hbuilt, hclean⟩ := (does_savedKind block).conclude_eq_ok_iff.mp h
    obtain ⟨found, hkind, hpair⟩ := Option.map_eq_some_iff.mp hbuilt
    obtain ⟨rfl, rfl⟩ := Prod.mk.inj hpair
    -- the name of the kind is there, and the flag is all that is left to report
    have hidentity : (Identity.steps block).all Journal.Step.isHarmless = true := by
      rw [savedKindSteps, Base.restoreSteps, List.all_append, List.all_append,
        Bool.and_eq_true, Bool.and_eq_true] at hclean
      exact hclean.1.1
    obtain ⟨name, hfirst⟩ := Identity.harmless_iff.mp hidentity
    rw [Base.ofBlock, Identity.ofBlock_eq hfirst] at hkind
    rw [Journal.all_isHarmless_iff, problems_savedKindSteps hfirst hkind,
      Option.toList_eq_nil_iff] at hclean
    obtain rfl : name = found.name := Kind.ofName?_eq_some_iff.mp hkind
    exact ⟨hfirst, hclean, rfl⟩
  · rintro ⟨hfirst, hflag, rfl⟩
    exact conclude_savedKind_eq_ok hfirst (Kind.ofName?_name kind) hflag

/-- The state of a requirement with the empty name is resumed: the name is there
    and empty, and nothing in the base keeps the state from being looked at. -/
structure ResumesNameless (block : Block) : Prop where
  name : block.first? "name" = some ""
  kind : ∃ kind : Kind, block.first? "type" = some kind.name
  flag : block.flagFault? "invertRequirement" = none

/-- What fails in the base has a name if the block has one. -/
theorem ownedBy_savedKind (hname : block.name ≠ "")
    (h : ((savedKind block).conclude block.name).run.value = .error failure) :
    failure.OwnedBy (· ≠ "") := by
  have hdoes : Reading.Does _ _ ([] ++ savedKindSteps block) := does_savedKind block
  have hstart : (Journal.start block.name).OwnedBy (· ≠ "") :=
    Journal.ownedBy_start hname
  refine hdoes.ownedBy_conclude hstart ?_ h
  rw [names_savedKindSteps]
  exact fun _ => Identity.ne_empty_of_mem_names

/-- What fails in the state has the name of the base. -/
theorem ownedBy_resume {kind : Kind} {base : Base}
    (h : (resume registry kind base block).run.value = .error failure) :
    failure.OwnedBy (· = base.name) := by
  have hdoes : Reading.Does _ _ ([] ++ stateSteps registry block) :=
    does_stateReading registry kind base block
  have hstart : (Journal.start base.name).OwnedBy (· = base.name) :=
    Journal.ownedBy_start rfl
  refine hdoes.ownedBy_conclude hstart ?_ h
  rw [names_stateSteps]
  exact nofun

/-- The only base without a name is one that is given the empty name. -/
theorem Base.name_ofBlock_eq_empty_iff {kind : Kind}
    (hkind : block.first? "type" = some kind.name) :
    (ofBlock block).name = "" ↔ block.first? "name" = some "" := by
  rw [ofBlock, Identity.ofBlock_eq hkind]
  cases block.first? "name" with
  | none => exact iff_of_false kind.name_ne_empty (Option.some_ne_none _).symm
  | some name => exact (Option.some_inj).symm

/-- **Who a failed restoring is attributed to.**  It has something to report.  Its
    owner is empty, and so is the owner of each of its diagnostics, exactly if a
    requirement with the empty name is resumed. -/
theorem ownedBy_restore (hname : block.name ≠ "")
    (h : (restore registry block).run.value = .error failure) :
    failure.OwnedBy fun owner => owner = "" ↔ ResumesNameless block := by
  obtain hbase | ⟨⟨base, kind⟩, hbase, hstate⟩ := Load.bind_eq_error_cases h
  · -- the base is at fault, so its state is not resumed
    refine (ownedBy_savedKind hname hbase).mono fun owner hne => iff_of_false hne ?_
    rintro ⟨-, ⟨kind, hkind⟩, hflag⟩
    rw [conclude_savedKind_eq_ok_iff.mpr ⟨hkind, hflag, rfl⟩] at hbase
    cases hbase
  · obtain ⟨hkind, hflag, rfl⟩ := conclude_savedKind_eq_ok_iff.mp hbase
    refine (ownedBy_resume hstate).mono fun owner howner => ?_
    rw [howner]
    refine (Base.name_ofBlock_eq_empty_iff hkind).trans ?_
    exact ⟨fun hempty => ⟨hempty, ⟨kind, hkind⟩, hflag⟩, ResumesNameless.name⟩

/-- Saved state with the empty name, with a fault in its base and one behind it. -/
def unnamed : Block :=
  ⟨"REQUIREMENT", [("name", ""), ("type", "AcceptContract"),
    ("invertRequirement", "maybe"), ("tag", "rescue"), ("maxCount", "2")]⟩

/-- What is wrong with the base. -/
def unnamedFailure : LoadFailure :=
  ⟨"REQUIREMENT", [⟨"REQUIREMENT",
    .field (.unreadable "invertRequirement" "maybe" .flag .notFlag)⟩]⟩

/-- With a fault in the base it is the block that is at fault. -/
theorem ownedBy_restore_unnamed :
    unnamed.name ≠ "" ∧
      (restore .empty unnamed).run.value = .error unnamedFailure ∧
      unnamedFailure.OwnedBy fun owner => owner = "" ↔ ResumesNameless unnamed := by
  have hname : unnamed.name ≠ "" := by decide
  have hfails : (restore .empty unnamed).run.value = .error unnamedFailure := rfl
  exact ⟨hname, hfails, ownedBy_restore hname hfails⟩

/-- A fault behind the base of a requirement with the empty name is nobody's. -/
theorem exists_restore_nameless :
    ∃ block failure, block.name ≠ "" ∧
      (restore .empty block).run.value = .error failure ∧ failure.owner = "" ∧
      ∃ diagnostic ∈ failure.diagnostics, diagnostic.owner = "" := by
  refine ⟨⟨"REQUIREMENT", [("name", ""), ("type", "CompleteContract"), ("tag", "rescue"),
    ("maxCount", "2")]⟩, ⟨"", [⟨"", .field (.missing "minCount")⟩]⟩, ?_, rfl, rfl, ?_⟩
  · decide
  · exact ⟨_, List.mem_singleton_self _, rfl⟩

end Requirement

end ContractRules
