import ContractRules.Proofs.Journal.Log
import ContractRules.Proofs.Registry.Meaning
import ContractRules.Proofs.Requirement.Description

/-! # Logs of requirements — what loading a definition tells

    Besides its diagnostics a requirement has two things to tell.  If its target
    is a contract type with two readings, the log hears of it as soon as the type
    is resolved, whatever becomes of the rest (`Target.shadowed?`).  And if the
    requirement is loaded, that is told last, by its name and kind
    (`Requirement.announced`). -/

namespace ContractRules

open Reading

/-! ## Steps that tell nothing -/

theorem Field.shadows_steps {α : Type} [Readable α] (field : Field α) (block : Block) :
    Journal.shadows (field.steps block) = [] := by
  rw [steps]
  cases field.read block <;> rfl

theorem Identity.shadows_steps (block : Block) : Journal.shadows (steps block) = [] := by
  rw [steps, Journal.shadows_append, Field.shadows_steps]
  split <;> rfl

theorem Identity.shadows_knownSteps {κ : Type} (ofName? : String → Option κ)
    (unknown : String → Problem) (block : Block) :
    Journal.shadows (knownSteps ofName? unknown block) = [] := by
  rw [knownSteps]
  split
  · rfl
  · split <;> rfl

/-- Looking for the kind tells of diagnostics and of nothing else. -/
theorem Identity.logs_knownKind {κ : Type} (ofName? : String → Option κ)
    (unknown : String → Problem) (block : Block) (owner : String) :
    ((knownKind ofName? unknown block).conclude owner).Logs [] [] := by
  have hlogs := (does_knownKind ofName? unknown block).logs_conclude owner
  rwa [shadows_knownSteps] at hlogs

/-! ## The target -/

namespace Target

/-- The contract type of a block, if it has two readings and no tag keeps it from
    being looked at. -/
def shadowed? (registry : Registry) (block : Block) : Option String :=
  if block.has "tag" then none
  else (block.first? "contractType").filter fun identifier =>
    registry.HasTwoReadings identifier

/-- Resolving an identifier tells of it if it has two readings. -/
theorem shadows_resolveSteps (registry : Registry) (identifier : String) :
    Journal.shadows (resolveSteps registry identifier) =
      if registry.HasTwoReadings identifier then [identifier] else [] := by
  rw [resolveSteps]
  cases hresolve : registry.resolve? identifier with
  | none =>
      have hshadow := isShadowed_of_resolve?_eq_none hresolve
      rw [if_neg fun h => Bool.false_ne_true (hshadow ▸ Registry.isShadowed_iff.mpr h)]
      rfl
  | some ref =>
      simp only [Registry.isShadowed_iff]
      split <;> rfl

/-- Loading the target tells of its contract type if that has two readings. -/
theorem shadows_loadSteps (registry : Registry) (block : Block) :
    Journal.shadows (loadSteps registry block (block.first? "tag")) =
      (shadowed? registry block).toList := by
  rw [shadowed?, Block.has]
  cases block.first? "tag" with
  | some name => rfl
  | none =>
      rw [Option.isSome_none, if_neg Bool.false_ne_true, loadSteps,
        show Problem.typeField = "contractType" from rfl]
      cases block.first? "contractType" with
      | none => rfl
      | some identifier =>
          show Journal.shadows (resolveSteps registry identifier) = _
          rw [shadows_resolveSteps, Option.filter_some]
          by_cases h : registry.HasTwoReadings identifier <;> simp [h]

end Target

namespace Requirement

theorem shadows_loadSteps (registry : Registry) (block : Block) :
    Journal.shadows (loadSteps registry block) =
      (Target.shadowed? registry block).toList := by
  have hcounts (holds : Prop) [Decidable holds] (problem : Problem) :
      Journal.shadows (if holds then [] else [.report problem]) = [] := by
    split <;> rfl
  rw [loadSteps, Base.loadSteps]
  simp only [Journal.shadows_append, Identity.shadows_steps, Field.shadows_steps,
    Target.shadows_loadSteps, hcounts, List.append_nil, List.nil_append]

/-! ## The requirement -/

/-- The requirement that a load gives, as the log is told of it. -/
def announced (load : Load Requirement) : List (String × Kind) :=
  match load.run.value with
  | .ok requirement => [(requirement.base.name, requirement.kind)]
  | .error _ => []

theorem announced_of_ok {load : Load Requirement} {requirement : Requirement}
    (h : load.run.value = .ok requirement) :
    announced load = [(requirement.base.name, requirement.kind)] := by
  rw [announced, h]

theorem announced_of_error {load : Load Requirement} {failure : LoadFailure}
    (h : load.run.value = .error failure) : announced load = [] := by
  rw [announced, h]

theorem kind_of_conclude_reading {registry : Registry} {kind : Kind} {block : Block}
    {requirement : Requirement} {owner : String}
    (h : ((reading registry kind block).conclude owner).run.value = .ok requirement) :
    requirement.kind = kind := by
  rw [(does_reading registry kind block).conclude_eq_ok_iff,
    Option.map_eq_some_iff] at h
  obtain ⟨⟨target, -, rfl⟩, -⟩ := h
  rfl

/-- A definition of a given kind tells of its target, and then of the requirement
    it was loaded as. -/
theorem logs_loadAs (registry : Registry) (kind : Kind) (block : Block) :
    (loadAs registry kind block).Logs (Target.shadowed? registry block).toList
      (announced (loadAs registry kind block)) := by
  have hreading := (does_reading registry kind block).logs_conclude kind.name
  rw [shadows_loadSteps] at hreading
  cases hvalue : ((reading registry kind block).conclude kind.name).run.value with
  | ok requirement =>
      rw [announced_of_ok (loadAs_eq_ok_iff.mpr hvalue),
        kind_of_conclude_reading hvalue]
      have hlogs : (loadAs registry kind block).Logs
          ((Target.shadowed? registry block).toList ++ [])
          ([] ++ [(requirement.base.name, kind)]) :=
        Load.Logs.bind_of_ok hvalue hreading (Load.logs_tell _ kind)
      rwa [List.append_nil] at hlogs
  | error failure =>
      have herror : (loadAs registry kind block).run.value = .error failure :=
        Load.value_bind_of_error hvalue
      rw [announced_of_error herror]
      exact Load.Logs.bind_of_error hvalue hreading

/-- The contract type of a definition, if it has two readings and is looked at:
    the kind must be known before the target is. -/
def shadowedType? (registry : Registry) (block : Block) : Option String :=
  if ((block.first? Identity.kindField).bind Kind.ofName?).isSome then
    Target.shadowed? registry block
  else none

/-- A definition tells of its contract type if that is looked at, and then of the
    requirement it was loaded as. -/
theorem logs_load (registry : Registry) (block : Block) :
    (load registry block).Logs (shadowedType? registry block).toList
      (announced (load registry block)) := by
  have hkind : ((knownKind block).conclude block.name).Logs [] [] :=
    Identity.logs_knownKind Kind.ofName? .unknownRequirement block block.name
  cases hvalue : ((knownKind block).conclude block.name).run.value with
  | ok kind =>
      have hsame : announced (load registry block) =
          announced (loadAs registry kind block) := by
        rw [announced, announced, load, Load.value_bind_of_ok hvalue]
      rw [shadowedType?, conclude_knownKind_eq_ok_iff.mp hvalue, Option.isSome_some,
        if_pos rfl, hsame]
      exact Load.Logs.bind_of_ok hvalue hkind (logs_loadAs registry kind block)
  | error failure =>
      have herror : (load registry block).run.value = .error failure :=
        Load.value_bind_of_error hvalue
      have hunknown : ¬((block.first? Identity.kindField).bind Kind.ofName?).isSome := by
        intro hknown
        obtain ⟨kind, hkind⟩ := Option.isSome_iff_exists.mp hknown
        rw [conclude_knownKind_eq_ok_iff.mpr hkind] at hvalue
        cases hvalue
      rw [shadowedType?, if_neg hunknown, announced_of_error herror]
      exact Load.Logs.bind_of_error hvalue hkind

end Requirement

end ContractRules
