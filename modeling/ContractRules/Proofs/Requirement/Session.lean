import ContractRules.Proofs.Field.Written
import ContractRules.Proofs.Registry.Meaning
import ContractRules.Proofs.Requirement.Description

/-! # Sessions — a requirement that is saved comes back

    Saved state does not say everything: the kind is saved by name, and a
    contract type by its identifier alone.  What is left out is found again
    because of where requirements come from.  Whichever way one arises, by
    loading or by restoring, its kind is the one of its name and its reference is
    what its identifier means (`ArisesIn.standsIn`).

    A block may hold other entries in front of the saved ones.  They do not
    matter as long as none has a key of saved state, because a look-up then goes
    past all of them (`keptIn_save`).  So the saved block says of the requirement
    what restoring asks for (`StandsIn.savedIn`). -/

namespace ContractRules

/-- A look-up goes past the entries of a block that lacks the key. -/
theorem Block.first?_append_of_has_eq_false {block : Block} {key : String}
    (h : block.has key = false) (entries : List (String × String)) :
    (block.append entries).first? key =
      ((Block.empty block.name).append entries).first? key := by
  have hnone : block.entries.find? (·.1 == key) = none := by
    rwa [has, first?, Option.isSome_map, Option.isSome_eq_false_iff,
      Option.isNone_iff_eq_none] at h
  rw [first?, append, List.find?_append, hnone]
  rfl

namespace Target

/-- The tag of a target that has one. -/
def tag? : Target → Option String
  | tag name => some name
  | type _ => none

/-- The identifier of a target that has none. -/
def identifier? : Target → Option String
  | tag _ => none
  | type ref => some ref.identifier

end Target

namespace Requirement

/-! ## Where requirements come from -/

/-- A requirement arises in a registry if some block loads as it, or if some
    saved state resumes as it. -/
def ArisesIn (requirement : Requirement) (registry : Registry) : Prop :=
  ∃ block, (load registry block).run.value = .ok requirement ∨
    (restore registry block).run.value = .ok requirement

/-- What saved state leaves out of a requirement can be found in a registry. -/
structure StandsIn (requirement : Requirement) (registry : Registry) : Prop where
  kind : Kind.ofName? requirement.base.kind = some requirement.kind
  target : ∀ ref, requirement.target = .type ref →
    registry.resolve? ref.identifier = some ref

/-- A requirement that a block describes stands in the registry. -/
theorem DescribedBy.standsIn {requirement : Requirement} {registry : Registry}
    {block : Block} (h : requirement.DescribedBy registry block) :
    requirement.StandsIn registry := by
  refine ⟨h.kind, ?_⟩
  -- only a block without a tag names a type, and then it was resolved
  intro ref href
  have htarget := h.target
  rw [href] at htarget
  cases htag : block.first? "tag" with
  | some name =>
      rw [htag] at htarget
      cases htarget
  | none =>
      rw [htag, Target.named?] at htarget
      obtain ⟨found, hfound, heq⟩ := Option.map_eq_some_iff.mp htarget
      obtain ⟨identifier, -, hresolve⟩ := Option.bind_eq_some_iff.mp hfound
      obtain rfl : found = ref := Target.type.inj heq
      rw [Registry.identifier_of_resolve? hresolve]
      exact hresolve

/-- Every requirement that arises in a registry stands in it. -/
theorem ArisesIn.standsIn {requirement : Requirement} {registry : Registry}
    (h : requirement.ArisesIn registry) : requirement.StandsIn registry := by
  obtain ⟨block, hload | hrestore⟩ := h
  · exact (load_eq_ok_iff.mp hload).standsIn
  · exact (restore_eq_ok_iff.mp hrestore).standsIn

/-! ## What a saved block says -/

/-- The keys of saved state. -/
def savedKeys : List String :=
  ["name", "type", "invertRequirement", "title", "minCount", "maxCount",
    "checkOnActiveContract", "tag", "contractType"]

/-- What a look-up finds in a block that keeps a requirement, key by key. -/
structure KeptIn (requirement : Requirement) (block : Block) : Prop where
  name : block.first? "name" = some requirement.base.name
  kind : block.first? Identity.kindField = some requirement.base.kind
  inverted : block.first? "invertRequirement" =
    some (flagText requirement.base.inverted)
  title : block.first? "title" = requirement.base.title?
  least : block.first? "minCount" = some (countText requirement.least)
  greatest : block.first? "maxCount" = some (countText requirement.greatest)
  checkedWhileActive : block.first? "checkOnActiveContract" =
    some (flagText requirement.base.checkedWhileActive)
  tag : block.first? "tag" = requirement.target.tag?
  type : block.first? Problem.typeField = requirement.target.identifier?

/-- A requirement is kept in a block that it is saved to, if the block has no
    key of saved state before. -/
theorem keptIn_save {requirement : Requirement} {block : Block}
    (h : ∀ key ∈ savedKeys, block.has key = false) :
    requirement.KeptIn (requirement.save block) := by
  -- past the foreign entries, each look-up is a matter of the saved ones alone
  have hpast : ∀ key ∈ savedKeys, (requirement.save block).first? key =
      (requirement.save (Block.empty block.name)).first? key := by
    intro key hkey
    exact Block.first?_append_of_has_eq_false (h key hkey) _
  obtain ⟨⟨_, _, _, _, title?⟩, _, target, _, _⟩ := requirement
  constructor
  all_goals
    refine (hpast _ (by decide)).trans ?_
    cases title? <;> cases target <;> rfl

/-- A target is named again by what is kept of it. -/
theorem StandsIn.named? {requirement : Requirement} {registry : Registry}
    (h : requirement.StandsIn registry) {block : Block}
    (htype : block.first? Problem.typeField = requirement.target.identifier?) :
    Target.named? registry block requirement.target.tag? =
      some requirement.target := by
  cases htarget : requirement.target with
  | tag name => rfl
  | type ref =>
      rw [htarget] at htype
      rw [Target.tag?, Target.named?, htype, Target.identifier?, Option.bind_some,
        h.target ref htarget]
      rfl

/-- What is kept of a requirement is saved state of it, in every registry in
    which it stands. -/
theorem StandsIn.savedIn {requirement : Requirement} {registry : Registry}
    (h : requirement.StandsIn registry) {block : Block}
    (hkept : requirement.KeptIn block) : requirement.SavedIn registry block where
  base := {
    kind := hkept.kind
    name := by rw [hkept.name]; rfl
    inverted := by
      rw [Field.read_optional rfl, hkept.inverted, Option.elim_some,
        Field.ofFirst_flagText]
    checkedWhileActive := by
      rw [Field.read_optional rfl, hkept.checkedWhileActive, Option.elim_some,
        Field.ofFirst_flagText]
    title := hkept.title.symm }
  kind := h.kind
  target := by
    rw [hkept.tag]
    exact h.named? hkept.type
  least := by
    rw [Field.read_required rfl, hkept.least, Option.elim_some,
      Field.ofFirst_countText]
  greatest := by
    rw [Field.read_required rfl, hkept.greatest, Option.elim_some,
      Field.ofFirst_countText]

/-- A requirement that stands in a registry is restored from what is kept of
    it. -/
theorem StandsIn.restore_eq_ok {requirement : Requirement} {registry : Registry}
    (h : requirement.StandsIn registry) {block : Block}
    (hfresh : ∀ key ∈ savedKeys, block.has key = false) :
    (restore registry (requirement.save block)).run.value = .ok requirement :=
  restore_eq_ok_iff.mpr (h.savedIn (keptIn_save hfresh))

/-! ## Saving again -/

/-- A requirement is saved with one tag or one contract type, and not with both. -/
theorem countP_target_saved (requirement : Requirement) (name : String) :
    (requirement.save (Block.empty name)).entries.countP
      (fun entry => entry.1 = "tag" ∨ entry.1 = "contractType") = 1 := by
  obtain ⟨⟨_, _, _, _, title?⟩, _, target, _, _⟩ := requirement
  cases title? <;> cases target <;> rfl

/-- **A requirement survives its session**: whatever block or saved state it came
    from, and whatever else is in the block that it is saved to, it is restored
    as it was.  Saved again it writes the same entries, and exactly one of them
    names its target. -/
theorem restore_save_of_arisesIn (registry : Registry) (requirement : Requirement)
    (harises : requirement.ArisesIn registry) (block : Block)
    (hfresh : ∀ key ∈ savedKeys, block.has key = false) :
    ∃ restored,
      (restore registry (requirement.save block)).run.value = .ok restored ∧
        restored = requirement ∧
        ∀ name, (restored.save (Block.empty name)).entries =
            (requirement.save (Block.empty name)).entries ∧
          (restored.save (Block.empty name)).entries.countP
            (fun entry => entry.1 = "tag" ∨ entry.1 = "contractType") = 1 := by
  refine ⟨requirement, harises.standsIn.restore_eq_ok hfresh, rfl, ?_⟩
  intro name
  exact ⟨rfl, countP_target_saved requirement name⟩

/-- A registry with one declarative and one compiled type. -/
def escorts : Registry where
  declarative := [⟨"Escort", "escort the convoy", true⟩]
  compiled := [("Rescue", .ofPath "missions.Rescue")]
  names_ne_empty := by decide
  names_nodup := by decide
  keys_nodup := by decide

/-- A requirement with an empty name and a comment in its title. -/
def seasoned : Requirement :=
  ⟨⟨"", "CompleteContract", true, true, some "two // more"⟩, .complete,
    .type (.declarative "EscortHard"), 2, unbounded⟩

/-- The requirement comes from a definition and joins a foreign entry. -/
theorem restore_save_seasoned :
    seasoned.ArisesIn escorts ∧
      (∀ key ∈ savedKeys,
        (Block.mk "STATE" [("note", "type = none")]).has key = false) ∧
      ∃ restored,
        (restore escorts
          (seasoned.save ⟨"STATE", [("note", "type = none")]⟩)).run.value =
            .ok restored ∧
          restored = seasoned ∧
          ∀ name, (restored.save (Block.empty name)).entries =
              (seasoned.save (Block.empty name)).entries ∧
            (restored.save (Block.empty name)).entries.countP
              (fun entry => entry.1 = "tag" ∨ entry.1 = "contractType") = 1 := by
  have harises : seasoned.ArisesIn escorts :=
    ⟨⟨"REQUIREMENT", [("type", "CompleteContract"), ("name", ""),
      ("contractType", "EscortHard"), ("invertRequirement", " TRUE "),
      ("title", "two // more"), ("minCount", "02")]⟩, Or.inl rfl⟩
  have hfresh : ∀ key ∈ savedKeys,
      (Block.mk "STATE" [("note", "type = none")]).has key = false := by decide
  exact ⟨harises, hfresh,
    restore_save_of_arisesIn escorts seasoned harises _ hfresh⟩

end Requirement

end ContractRules
