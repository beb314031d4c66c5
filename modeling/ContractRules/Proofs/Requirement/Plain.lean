import ContractRules.Proofs.Definition.Plain
import ContractRules.Proofs.Registry.Meaning
import ContractRules.Proofs.Requirement.Description
import ContractRules.Requirement.Title

/-! # Plain requirements — what is shown of a requirement is plain

    The texts of a requirement are values of its block, or come from the registry.
    So if both are plain then the requirement is (`DescribedBy.isPlain`), and so are
    its title and its saved state.  A block that does not load reports plain
    problems (`isPlain_load`). -/

namespace ContractRules

open Text (isPlain_append isPlain_toString)

/-- A registry that gives plain names and titles. -/
structure Registry.IsPlain (registry : Registry) : Prop where
  declarative : ∀ type ∈ registry.declarative,
    Text.IsPlain type.name ∧ Text.IsPlain type.title
  compiled : ∀ entry ∈ registry.compiled, Text.IsPlain entry.2.name

/-- A target that goes by plain texts. -/
def Target.IsPlain : Target → Prop
  | .tag name => Text.IsPlain name
  | .type ref => Text.IsPlain ref.identifier ∧ Text.IsPlain ref.typeName

/-- A requirement whose texts are plain. -/
structure Requirement.IsPlain (requirement : Requirement) : Prop where
  name : Text.IsPlain requirement.base.name
  kind : Text.IsPlain requirement.base.kind
  title : ∀ title, requirement.base.title? = some title → Text.IsPlain title
  target : requirement.target.IsPlain

variable {registry : Registry} {block : Block}

/-! ## From plain blocks -/

/-- A plain identifier means something plain. -/
theorem Registry.IsPlain.resolve? (hregistry : registry.IsPlain) {identifier : String}
    (hidentifier : Text.IsPlain identifier) {ref : TypeRef}
    (h : registry.resolve? identifier = some ref) : (Target.type ref).IsPlain := by
  cases ref with
  | declarative written =>
      obtain ⟨-, rfl⟩ := resolve?_eq_declarative_iff.mp h
      exact ⟨hidentifier, hidentifier⟩
  | compiled key type =>
      obtain ⟨-, rfl, hmem⟩ := resolve?_eq_compiled_iff.mp h
      exact ⟨hidentifier, hregistry.compiled _ hmem⟩

/-- A plain block names a plain target. -/
theorem Target.isPlain_of_named? (hregistry : registry.IsPlain) (hblock : block.IsPlain)
    {target : Target} (h : named? registry block (block.first? "tag") = some target) :
    target.IsPlain := by
  cases htag : block.first? "tag" with
  | some name =>
      rw [htag] at h
      rw [← Option.some.inj h]
      exact hblock.first? htag
  | none =>
      rw [htag, named?] at h
      obtain ⟨ref, href, rfl⟩ := Option.map_eq_some_iff.mp h
      obtain ⟨identifier, hfirst, hresolve⟩ := Option.bind_eq_some_iff.mp href
      exact hregistry.resolve? (hblock.first? hfirst) hresolve

/-- A target reports the identifier that it can not resolve. -/
theorem Target.plainSteps_loadSteps (registry : Registry) (hblock : block.IsPlain)
    (tag? : Option String) : Journal.PlainSteps (loadSteps registry block tag?) := by
  cases tag? with
  | some name => exact Journal.plainSteps_nil
  | none =>
      rw [loadSteps]
      cases hfirst : block.first? Problem.typeField with
      | none => exact Journal.plainSteps_report (Problem.isPlain_missing (by decide))
      | some identifier =>
          show Journal.PlainSteps (resolveSteps registry identifier)
          rw [resolveSteps]
          split
          · exact Journal.plainSteps_report
              (Problem.isPlain_unresolvedType (hblock.first? hfirst))
          split
          · exact Journal.plainSteps_shadow identifier
          · exact Journal.plainSteps_nil

namespace Requirement

/-- A plain block describes a plain requirement. -/
theorem DescribedBy.isPlain {requirement : Requirement}
    (h : requirement.DescribedBy registry block) (hregistry : registry.IsPlain)
    (hblock : block.IsPlain) : requirement.IsPlain := by
  have hkind : Text.IsPlain requirement.base.kind := hblock.first? h.base.kind
  refine ⟨?_, hkind, ?_, Target.isPlain_of_named? hregistry hblock h.target⟩
  · rw [h.base.name]
    cases hfirst : block.first? "name" with
    | none => exact hkind
    | some name => exact hblock.first? hfirst
  · rw [h.base.title]
    exact fun title => hblock.first?

/-! ## What is shown -/

variable {requirement : Requirement}

/-- Counts are put in plain words. -/
theorem isPlain_countPhrase (least greatest : UInt32) :
    Text.IsPlain (countPhrase least greatest) := by
  have hcount (count : UInt32) : Text.IsPlain (countText count) := isPlain_toString _
  rw [countPhrase]
  split
  · exact isPlain_append.mpr ⟨by decide, hcount _⟩
  split
  · decide
  split
  · exact isPlain_append.mpr ⟨by decide, hcount _⟩
  split
  · exact isPlain_append.mpr ⟨by decide, hcount _⟩
  · simp only [isPlain_append]
    exact ⟨⟨⟨by decide, hcount _⟩, by decide⟩, hcount _⟩

/-- Without a wording of the reader's own a target has a plain title. -/
theorem isPlain_target_title (hregistry : registry.IsPlain) {target : Target}
    (h : target.IsPlain) : Text.IsPlain (target.title registry .none) := by
  match target, h with
  | .tag name, h => exact isPlain_append.mpr ⟨by decide, h⟩
  | .type (.declarative identifier), h =>
      rw [Target.title]
      cases hfind : registry.validNamed? identifier with
      | none => exact h.1
      | some type => exact (hregistry.declarative type (List.mem_of_find?_eq_some hfind)).2
  | .type (.compiled _ _), h => exact h.2

/-- A plain requirement has a plain title without a wording. -/
theorem IsPlain.title_none (h : requirement.IsPlain) (hregistry : registry.IsPlain) :
    Text.IsPlain (requirement.title registry .none) := by
  rw [Requirement.title]
  cases htitle : requirement.base.title? with
  | some title => exact h.title title htitle
  | none =>
      have hphrase : Text.IsPlain requirement.kind.phrase := by
        cases requirement.kind <;> decide
      simp only [isPlain_append]
      exact ⟨⟨⟨⟨hphrase, by decide⟩, isPlain_countPhrase _ _⟩, by decide⟩,
        isPlain_target_title hregistry h.target⟩

theorem isPlain_flagText (flag : Bool) : Text.IsPlain (flagText flag) := by
  cases flag <;> decide

theorem isPlain_target_saved {target : Target} (h : target.IsPlain) :
    Text.IsPlain target.saved.1 ∧ Text.IsPlain target.saved.2 := by
  cases target with
  | tag name =>
      have hkey : Text.IsPlain "tag" := by decide
      exact ⟨hkey, h⟩
  | type ref =>
      have hkey : Text.IsPlain Problem.typeField := by decide
      exact ⟨hkey, h.1⟩

/-- A requirement is saved under plain keys as plain values. -/
theorem IsPlain.saved (h : requirement.IsPlain) :
    ∀ entry ∈ requirement.saved, Text.IsPlain entry.1 ∧ Text.IsPlain entry.2 := by
  have hcount (count : UInt32) : Text.IsPlain (countText count) := isPlain_toString _
  rw [Requirement.saved, List.forall_mem_append]
  constructor
  · rw [Base.saved, List.forall_mem_append, List.forall_mem_map]
    constructor
    · simp only [List.forall_mem_cons]
      exact ⟨⟨by decide, h.name⟩, ⟨by decide, h.kind⟩, ⟨by decide, isPlain_flagText _⟩,
        nofun⟩
    · have hkey : Text.IsPlain "title" := by decide
      intro title hmem
      exact ⟨hkey, h.title title (Option.mem_toList.mp hmem)⟩
  · simp only [savedState, List.forall_mem_cons]
    exact ⟨⟨by decide, hcount _⟩, ⟨by decide, hcount _⟩, ⟨by decide, isPlain_flagText _⟩,
      isPlain_target_saved h.target, nofun⟩

/-! ## What is reported -/

theorem plainSteps_loadSteps (registry : Registry) (hblock : block.IsPlain) :
    Journal.PlainSteps (loadSteps registry block) := by
  have hflag {name : String} (hname : Text.IsPlain name) (default : Bool) :=
    Field.plainSteps_optional Readable.isPlain_flag hblock hname default
  have hcount {name : String} (hname : Text.IsPlain name) (default : UInt32) :=
    Field.plainSteps_optional Readable.isPlain_count hblock hname default
  have htarget := Target.plainSteps_loadSteps registry hblock (block.first? "tag")
  refine (((Identity.plainSteps hblock).append
    ((hflag (by decide) _).append (hflag (by decide) _))).append
      (htarget.append ((hcount (by decide) _).append ((hcount (by decide) _).append ?_))))
  split
  · exact Journal.plainSteps_nil
  · exact Journal.plainSteps_report (Problem.isPlain_crossedCounts _ _)

/-- **A plain block reports plain problems.** -/
theorem isPlain_load (registry : Registry) (hblock : block.IsPlain) :
    (load registry block).IsPlain := by
  refine Load.IsPlain.bind ?_ fun kind _ => ?_
  · exact (Identity.does_knownKind _ _ block).isPlain_conclude
      (Identity.plainSteps_known _ (fun _ => Problem.isPlain_unknownRequirement) hblock) _
  · refine Load.IsPlain.bind ?_ fun requirement _ => Load.isPlain_of_ok rfl
    exact (does_reading registry kind block).isPlain_conclude
      (plainSteps_loadSteps registry hblock) _

end Requirement

end ContractRules
