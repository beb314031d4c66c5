import ContractRules.Proofs.Requirement.Evaluation
import ContractRules.Proofs.Requirement.Report
import ContractRules.Proofs.Requirement.Session

/-! # Provenance — every part of a requirement is written in its definition

    A block writes a requirement if each part of the one can be pointed out in the
    other: the first value under the key of the part, in its spelling, or the
    default where the key is absent (`WrittenIn`).  No part is left open, so a block
    writes one requirement at most (`WrittenIn.unique`), and this is the one that is
    loaded, unless its counts are crossed (`load_eq_ok_iff_writtenIn`).

    Among the parts are the kind and the name of a kind, which are read apart and
    belong together.  That is why saved state, which keeps the name alone, leads
    back to the kind that was built (`restore_save_eq_resume`). -/

namespace ContractRules

/-! ## What a block writes -/

/-- A block writes its tag as the target or, without one, the type that its contract
    type resolves to. -/
inductive Target.WrittenIn (registry : Registry) (block : Block) : Target → Prop where
  | tag {name : String} (htag : block.first? "tag" = some name) :
      WrittenIn registry block (.tag name)
  | type {identifier : String} {ref : TypeRef} (htag : block.first? "tag" = none)
      (htype : block.first? "contractType" = some identifier)
      (hresolve : registry.resolve? identifier = some ref) :
      WrittenIn registry block (.type ref)

/-- The target is the one that the block is written for. -/
theorem Target.named?_eq_some_iff {registry : Registry} {block : Block}
    {target : Target} :
    named? registry block (block.first? "tag") = some target ↔
      target.WrittenIn registry block := by
  constructor
  · intro h
    -- the tag is asked first, the type only without it
    cases htag : block.first? "tag" with
    | some name =>
        rw [htag] at h
        rw [← Option.some.inj h]
        exact .tag htag
    | none =>
        rw [htag] at h
        obtain ⟨ref, href, rfl⟩ := Option.map_eq_some_iff.mp h
        obtain ⟨identifier, htype, hresolve⟩ := Option.bind_eq_some_iff.mp href
        exact .type htag htype hresolve
  · intro h
    cases h with
    | tag htag =>
        rw [htag]
        rfl
    | type htag htype hresolve =>
        have hfirst : block.first? Problem.typeField = _ := htype
        rw [htag, named?, hfirst, Option.bind_some, hresolve, Option.map_some]

namespace Requirement

/-- A block writes a requirement, part by part. -/
structure WrittenIn (requirement : Requirement) (registry : Registry)
    (block : Block) : Prop where
  type : block.first? "type" = some requirement.base.kind
  kind : requirement.base.kind = requirement.kind.name
  name : requirement.base.name = (block.first? "name").getD requirement.base.kind
  inverted : block.Gives SpellsFlag "invertRequirement" false requirement.base.inverted
  checkedWhileActive : block.Gives SpellsFlag "checkOnActiveContract" true
    requirement.base.checkedWhileActive
  title : requirement.base.title? = block.first? "title"
  target : requirement.target.WrittenIn registry block
  least : block.Gives SpellsCount "minCount" 1 requirement.least
  greatest : block.Gives SpellsCount "maxCount" 4294967295 requirement.greatest

variable {requirement other : Requirement} {registry : Registry} {block : Block}

/-- A definition is a block that writes the requirement and keeps its counts in
    order. -/
theorem definedBy_iff_writtenIn :
    requirement.DefinedBy registry block ↔
      requirement.WrittenIn registry block ∧
        requirement.least ≤ requirement.greatest := by
  constructor
  · intro h
    refine ⟨?_, h.ordered⟩
    exact {
      type := h.base.kind
      kind := Kind.ofName?_eq_some_iff.mp h.kind
      name := h.base.name
      inverted := speltBy_flag.read_optional_eq_ok_iff.mp h.base.inverted
      checkedWhileActive :=
        speltBy_flag.read_optional_eq_ok_iff.mp h.base.checkedWhileActive
      title := h.base.title
      target := Target.named?_eq_some_iff.mp h.target
      least := speltBy_count.read_optional_eq_ok_iff.mp h.least
      greatest := speltBy_count.read_optional_eq_ok_iff.mp h.greatest }
  · rintro ⟨h, hordered⟩
    exact {
      base := {
        kind := h.type
        name := h.name
        inverted := speltBy_flag.read_optional_eq_ok_iff.mpr h.inverted
        checkedWhileActive :=
          speltBy_flag.read_optional_eq_ok_iff.mpr h.checkedWhileActive
        title := h.title }
      kind := Kind.ofName?_eq_some_iff.mpr h.kind
      target := Target.named?_eq_some_iff.mpr h.target
      least := speltBy_count.read_optional_eq_ok_iff.mpr h.least
      greatest := speltBy_count.read_optional_eq_ok_iff.mpr h.greatest
      ordered := hordered }

/-- A requirement is loaded exactly if the block is written for it and its counts are
    in order. -/
theorem load_eq_ok_iff_writtenIn :
    (load registry block).run.value = .ok requirement ↔
      requirement.WrittenIn registry block ∧
        requirement.least ≤ requirement.greatest :=
  load_eq_ok_iff.trans definedBy_iff_writtenIn

/-- A block writes one requirement at most. -/
theorem WrittenIn.unique (h : requirement.WrittenIn registry block)
    (hother : other.WrittenIn registry block) : other = requirement := by
  have hinverted := speltBy_flag.gives_unique hother.inverted h.inverted
  have hchecked :=
    speltBy_flag.gives_unique hother.checkedWhileActive h.checkedWhileActive
  have hleast := speltBy_count.gives_unique hother.least h.least
  have hgreatest := speltBy_count.gives_unique hother.greatest h.greatest
  have htitle := hother.title.trans h.title.symm
  have htype : other.base.kind = requirement.base.kind :=
    Option.some.inj (hother.type.symm.trans h.type)
  have hname : other.base.name = requirement.base.name := by
    rw [hother.name, htype, ← h.name]
  have hkind : other.kind = requirement.kind := by
    have hnames : other.kind.name = requirement.kind.name := by
      rw [← hother.kind, htype, h.kind]
    rw [← Option.some_inj, ← Kind.ofName?_name other.kind, hnames, Kind.ofName?_name]
  -- both targets are the one that the block names
  have htarget : other.target = requirement.target :=
    Option.some.inj ((Target.named?_eq_some_iff.mpr hother.target).symm.trans
      (Target.named?_eq_some_iff.mpr h.target))
  obtain ⟨⟨_, _, _, _, _⟩, _, _, _, _⟩ := requirement
  obtain ⟨⟨_, _, _, _, _⟩, _, _, _, _⟩ := other
  cases hname
  cases htype
  cases hinverted
  cases hchecked
  cases htitle
  cases hkind
  cases htarget
  cases hleast
  cases hgreatest
  rfl

/-! ## Back to the kind -/

/-- Saved state is of the type that the base names. -/
theorem first?_type_save {state : Block} (hfresh : state.has "type" = false) :
    (requirement.save state).first? "type" = some requirement.base.kind :=
  Block.first?_append_of_has_eq_false hfresh _

/-- Saved state spells the flag of the base well. -/
theorem flagFault?_save {state : Block}
    (hfresh : state.has "invertRequirement" = false) :
    (requirement.save state).flagFault? "invertRequirement" = none := by
  have hfirst : (requirement.save state).first? "invertRequirement" =
      some (flagText requirement.base.inverted) :=
    Block.first?_append_of_has_eq_false hfresh _
  refine (Block.misspelt?_eq_none_iff false).mpr ⟨requirement.base.inverted, ?_⟩
  rw [Block.Gives, hfirst]
  exact readFlag_eq_ok_iff.mp (readFlag_flagText _)

/-- A requirement that is named by its kind is resumed as one of this kind, in
    whatever registry. -/
theorem restore_save_eq_resume (hkind : requirement.base.kind = requirement.kind.name)
    {state : Block} (htype : state.has "type" = false)
    (hflag : state.has "invertRequirement" = false) :
    ∃ base : Base, base.kind = requirement.kind.name ∧
      ∀ registry : Registry,
        (restore registry (requirement.save state)).run.value =
          (resume registry requirement.kind base (requirement.save state)).run.value := by
  have hname : (requirement.save state).first? "type" = some requirement.base.kind :=
    first?_type_save htype
  -- the registry is not asked for the kind, so one base serves all of them
  have hsaved := conclude_savedKind_eq_ok hname (Kind.ofName?_eq_some_iff.mpr hkind)
    (flagFault?_save hflag)
  refine ⟨{ Base.ofBlock (requirement.save state) with checkedWhileActive := true },
    ?_, ?_⟩
  · show (Base.ofBlock (requirement.save state)).kind = requirement.kind.name
    rw [Base.ofBlock, Identity.ofBlock_eq hname, hkind]
  · intro registry
    rw [restore, Load.value_bind_of_ok hsaved]

/-- **A requirement is what its definition says**, part by part, and nothing else
    could be written there.  Its name of a kind is the name of its own kind: so a
    state that it is saved to is of this type, and is resumed as this kind of
    requirement. -/
theorem writtenIn_of_load (registry : Registry) (block : Block)
    (requirement : Requirement)
    (hload : (load registry block).run.value = .ok requirement) :
    requirement.WrittenIn registry block ∧
      (∀ other : Requirement, other.WrittenIn registry block → other = requirement) ∧
      ∀ state : Block, state.has "type" = false →
        state.has "invertRequirement" = false →
        (requirement.save state).first? "type" = some requirement.kind.name ∧
          ∃ base : Base, base.kind = requirement.kind.name ∧
            ∀ later : Registry,
              (restore later (requirement.save state)).run.value =
                (resume later requirement.kind base
                  (requirement.save state)).run.value := by
  have hwritten := (load_eq_ok_iff_writtenIn.mp hload).1
  refine ⟨hwritten, fun other hother => hwritten.unique hother, ?_⟩
  intro state htype hflag
  refine ⟨?_, restore_save_eq_resume hwritten.kind htype hflag⟩
  rw [← hwritten.kind]
  exact first?_type_save htype

/-- A definition that says several things twice. -/
def insistent : Block :=
  ⟨"REQUIREMENT", [("contractType", "Recovery"), ("type", "AcceptContract"),
    ("type", "CompleteContract"), ("maxCount", " 007"), ("title", "first"),
    ("checkOnActiveContract", "False "), ("title", "second"), ("maxCount", "x")]⟩

/-- A registry with one declarative and one compiled type. -/
def patrols : Registry where
  declarative := [⟨"Patrol", "watch over a lane", true⟩]
  compiled := [("Recovery", .ofPath "missions.Salvage")]
  names_ne_empty := by decide
  names_nodup := by decide
  keys_nodup := by decide

/-- What is loaded: the first of the values count. -/
def insistence : Requirement :=
  ⟨⟨"AcceptContract", "AcceptContract", false, false, some "first"⟩, .accept,
    .type (.compiled "Recovery" ⟨"Salvage", "missions.Salvage"⟩), 1, 7⟩

/-- A state that has other entries already. -/
def logbook : Block := ⟨"STATE", [("note", "type"), ("tag", "old")]⟩

/-- The first of several values count, and what is saved stands behind what was there.
    -/
theorem writtenIn_of_load_insistent :
    (load patrols insistent).run.value = .ok insistence ∧
      insistence.WrittenIn patrols insistent ∧
      (∀ other : Requirement, other.WrittenIn patrols insistent →
        other = insistence) ∧
      logbook.has "type" = false ∧ logbook.has "invertRequirement" = false ∧
      (insistence.save logbook).first? "type" = some "AcceptContract" ∧
      ∃ base : Base, base.kind = "AcceptContract" ∧
        ∀ later : Registry,
          (restore later (insistence.save logbook)).run.value =
            (resume later .accept base (insistence.save logbook)).run.value := by
  have hload : (load patrols insistent).run.value = .ok insistence := rfl
  have htype : logbook.has "type" = false := by decide
  have hflag : logbook.has "invertRequirement" = false := by decide
  obtain ⟨hwritten, hunique, hsaved⟩ :=
    writtenIn_of_load patrols insistent insistence hload
  exact ⟨hload, hwritten, hunique, htype, hflag, hsaved logbook htype hflag⟩

end Requirement

end ContractRules
