import ContractRules.Requirement.Check
import ContractRules.Proofs.Registry.Growth
import ContractRules.Proofs.Requirement.Session

/-! # Growth — saved requirements and a larger registry

    Saved state may be restored in a registry that has grown since.  Of all that
    is saved only the identifier of a contract type is looked up there, so only
    the target can change, and it changes only if the identifier does
    (`Registry.GrowsTo.resolve?_eq`): a key of a compiled type may have been
    overtaken by a new declarative name.

    Then the requirement looks for contracts that go by the key.  Those are the
    same contracts if the type was registered under its own bare name. -/

namespace ContractRules.Requirement

/-- Targets with the same saved form make no difference to what is saved. -/
theorem save_withTarget {requirement : Requirement} {target : Target}
    (h : target.saved = requirement.target.saved) (block : Block) :
    { requirement with target }.save block = requirement.save block := by
  rw [save, save, saved, saved, savedState, savedState, h]

/-- Targets that describe the same contracts make no difference to the answer. -/
theorem check_withTarget {requirement : Requirement} {target : Target}
    (h : ∀ record, target.describes record = requirement.target.describes record)
    (records : List ContractRecord) (parentActive : Bool) :
    { requirement with target }.check records parentActive =
      requirement.check records parentActive := by
  have hcounts : { requirement with target }.counts = requirement.counts := by
    funext record
    rw [counts, counts, h]
  rw [check, check, isMet, isMet, count, count, hcounts]

variable {requirement : Requirement} {registry larger : Registry}
  {added : Registry.Draft}

/-- A requirement goes on to stand in a registry that grows, if no new declarative
    name overtakes its key. -/
theorem StandsIn.of_growsTo (h : requirement.StandsIn registry)
    (hgrows : registry.GrowsTo added larger)
    (hspared : ¬ ∃ key type, requirement.target = .type (.compiled key type) ∧
      added.Covers key) : requirement.StandsIn larger where
  kind := h.kind
  target := by
    intro ref href
    refine hgrows.resolve?_eq (h.target ref href) ?_
    rintro key type rfl hcovers
    exact hspared ⟨key, type, href, hcovers⟩

/-- A requirement whose key is overtaken stands in the larger registry with the
    key as a declarative identifier. -/
theorem StandsIn.declarative_of_growsTo (h : requirement.StandsIn registry)
    (hgrows : registry.GrowsTo added larger) {key : String}
    (hadded : added.Covers key) :
    { requirement with target := .type (.declarative key) }.StandsIn larger where
  kind := h.kind
  target := by
    intro ref href
    rw [← Target.type.inj href]
    exact hgrows.resolve?_of_added hadded

/-- **Saves survive growth.**  What a registry let arise and was saved is restored
    in every registry that has more types.  It comes back as it was, except that
    a compiled type whose key begins with a new declarative name gives way to the
    key itself; and even then the engine's answers stay the same if the key was
    the bare name of the type. -/
theorem restore_save_of_extends (draft added extended : Registry.Draft)
    (registry larger : Registry) (hbuild : draft.build = .ok registry)
    (hlarger : extended.build = .ok larger)
    (hextends : extended.Extends draft added) (requirement : Requirement)
    (harises : requirement.ArisesIn registry) (block : Block)
    (hfresh : ∀ key ∈ savedKeys, block.has key = false) :
    ∃ restored,
      (restore larger (requirement.save block)).run.value = .ok restored ∧
        ((¬ ∃ key type, requirement.target = .type (.compiled key type) ∧
            added.Covers key) → restored = requirement) ∧
        (∀ key type, requirement.target = .type (.compiled key type) →
          added.Covers key →
            restored = { requirement with target := .type (.declarative key) }) ∧
        ∀ key type, requirement.target = .type (.compiled key type) →
          type.name = key → ∀ records parentActive,
            restored.check records parentActive =
              requirement.check records parentActive := by
  have hgrows := hextends.growsTo hbuild hlarger
  have hstands := harises.standsIn
  by_cases hovertaken : ∃ key type,
      requirement.target = .type (.compiled key type) ∧ added.Covers key
  · obtain ⟨key, type, htarget, hcovers⟩ := hovertaken
    -- the key is all that is saved of the type, and it is now declarative
    have hsaved : (Target.type (.declarative key)).saved =
        requirement.target.saved := by
      rw [htarget]
      rfl
    have hrestore :=
      (hstands.declarative_of_growsTo hgrows hcovers).restore_eq_ok hfresh
    rw [save_withTarget hsaved] at hrestore
    refine ⟨_, hrestore, fun hnot => absurd ⟨key, type, htarget, hcovers⟩ hnot, ?_, ?_⟩
    · intro key' type' htarget' _
      rw [htarget, Target.type.injEq, TypeRef.compiled.injEq] at htarget'
      rw [htarget'.1]
    · intro key' type' htarget' hname
      rw [htarget, Target.type.injEq, TypeRef.compiled.injEq] at htarget'
      obtain ⟨rfl, rfl⟩ := htarget'
      -- contracts of the type go by the key, as those of the identifier do
      refine check_withTarget ?_
      intro record
      rw [htarget, Target.describes, Target.describes, TypeRef.typeName,
        TypeRef.typeName, hname]
  · have hrestore := (hstands.of_growsTo hgrows hovertaken).restore_eq_ok hfresh
    refine ⟨requirement, hrestore, fun _ => rfl, ?_, fun _ _ _ _ _ _ => rfl⟩
    intro key type htarget hcovers
    exact absurd ⟨key, type, htarget, hcovers⟩ hovertaken

/-- The registrations of a registry with one type of each sort. -/
def firstDraft : Registry.Draft :=
  ⟨escorts.declarative, escorts.compiled⟩

/-- Registrations that come later; the name is the beginning of an older key. -/
def laterTypes : Registry.Draft :=
  ⟨[⟨"Res", "respond to a call", false⟩], [("Survey", .ofPath "missions.Survey")]⟩

/-- The registry with all of them. -/
def responders : Registry where
  declarative := laterTypes.declarative ++ escorts.declarative
  compiled := escorts.compiled ++ laterTypes.compiled
  names_ne_empty := by decide
  names_nodup := by decide
  keys_nodup := by decide

/-- A requirement on a compiled type that is overtaken later. -/
def overtaken : Requirement :=
  ⟨.ofKind "AcceptContract", .accept,
    .type (.compiled "Rescue" ⟨"Rescue", "missions.Rescue"⟩), 3, unbounded⟩

/-- A later type whose name begins the key takes the requirement over. -/
theorem restore_save_of_extends_overtaken :
    firstDraft.build = .ok escorts ∧
      (⟨responders.declarative, responders.compiled⟩ : Registry.Draft).build =
        .ok responders ∧
      Registry.Draft.Extends ⟨responders.declarative, responders.compiled⟩
        firstDraft laterTypes ∧
      overtaken.ArisesIn escorts ∧
      ∃ restored,
        (restore responders (overtaken.save (Block.empty "STATE"))).run.value =
            .ok restored ∧
          restored = { overtaken with target := .type (.declarative "Rescue") } ∧
          ∀ records parentActive, restored.check records parentActive =
            overtaken.check records parentActive := by
  have hextends : Registry.Draft.Extends
      ⟨responders.declarative, responders.compiled⟩ firstDraft laterTypes :=
    ⟨by decide, by decide⟩
  have harises : overtaken.ArisesIn escorts :=
    ⟨⟨"REQUIREMENT", [("type", "AcceptContract"), ("contractType", "Rescue"),
      ("minCount", "3")]⟩, Or.inl rfl⟩
  obtain ⟨restored, hrestore, -, htarget, hcheck⟩ :=
    restore_save_of_extends firstDraft laterTypes _ escorts responders rfl rfl
      hextends overtaken harises (Block.empty "STATE") (by decide)
  exact ⟨rfl, rfl, hextends, harises, restored, hrestore,
    htarget _ _ rfl (by decide), hcheck _ _ rfl rfl⟩

end ContractRules.Requirement
