import ContractRules.Proofs.Definition.Steps
import ContractRules.Proofs.Journal.Attribution

/-! # Attribution of definitions — the one name that a block goes by

    As long as it is not known what kind of definition a block is, its problems are
    its own.  After that they are those of the definition, which goes by its name,
    or by its kind if the name is missing or empty (`Block.GoesBy`).

    A definition is renamed before anything can be found wrong with it, since the
    only fault that comes earlier is a missing kind, and that one has been ruled
    out by then (`Identity.perform_steps_eq_start`).  So a block that fails has one
    owner. -/

namespace ContractRules

/-- The name that the problems of a block go by, if it can be of these kinds. -/
inductive Block.GoesBy (kinds : List String) (block : Block) : String → Prop where
  | untyped : block.first? "type" = none → GoesBy kinds block block.name
  | unknown {kind : String} : block.first? "type" = some kind → kind ∉ kinds →
      GoesBy kinds block block.name
  | named {kind name : String} : block.first? "type" = some kind → kind ∈ kinds →
      block.first? "name" = some name → name ≠ "" → GoesBy kinds block name
  | nameless {kind : String} : block.first? "type" = some kind → kind ∈ kinds →
      (∀ name, block.first? "name" = some name → name = "") → GoesBy kinds block kind

/-- A failure has one owner, and that is the name that the block goes by. -/
structure LoadFailure.IsOf (failure : LoadFailure) (kinds : List String)
    (block : Block) : Prop where
  goesBy : block.GoesBy kinds failure.owner
  ownedBy : failure.OwnedBy (· = failure.owner)

namespace LoadFailure

variable {kinds : List String} {block : Block} {failure : LoadFailure}

/-- A failure that has the one owner its block goes by is a failure of that block. -/
theorem OwnedBy.isOf {owner : String} (h : failure.OwnedBy (· = owner))
    (hgoes : block.GoesBy kinds owner) : failure.IsOf kinds block := by
  obtain rfl : failure.owner = owner := h.owner
  exact ⟨hgoes, h⟩

end LoadFailure

/-- If neither a block nor a kind has the empty name, nobody goes by it. -/
theorem Block.GoesBy.ne_empty {kinds : List String} {block : Block} {owner : String}
    (h : block.GoesBy kinds owner) (hname : block.name ≠ "") (hkinds : "" ∉ kinds) :
    owner ≠ "" := by
  cases h with
  | untyped | unknown => exact hname
  | named _ _ _ hne => exact hne
  | nameless _ hkind =>
      rintro rfl
      exact hkinds hkind

namespace Identity

/-- With its kind there, a definition that was begun under its kind goes on under
    the name that it goes by, and nothing has happened yet. -/
theorem perform_steps_eq_start {kinds : List String} {block : Block} {kind : String}
    (hkind : block.first? kindField = some kind) (hmem : kind ∈ kinds) :
    ∃ owner, block.GoesBy kinds owner ∧
      (Journal.start kind).perform (steps block) = .start owner := by
  have hread : (Field.required kindField : Field String).read block = .ok kind := by
    rw [Field.read_required_text, hkind]
    rfl
  have hsteps : (Field.required kindField : Field String).steps block = [] :=
    Field.steps_of_ok hread
  rw [steps, hsteps, List.nil_append, ofBlock_eq hkind]
  dsimp only
  -- no name and an empty one come to the same
  cases hname : block.first? "name" with
  | none =>
      refine ⟨kind, .nameless hkind hmem fun name hsome => ?_, ?_⟩
      · rw [hname] at hsome
        cases hsome
      · -- being renamed to the name it has is no change
        split <;> rfl
  | some name =>
      by_cases hempty : name = ""
      · refine ⟨kind, .nameless hkind hmem fun other hsome => ?_, ?_⟩
        · rw [hname] at hsome
          exact Option.some.inj hsome ▸ hempty
        · rw [Option.getD_some, if_neg (not_not_intro hempty)]
          rfl
      · refine ⟨name, .named hkind hmem hname hempty, ?_⟩
        rw [Option.getD_some, if_pos hempty]
        rfl

/-- A definition of a known kind that fails does so under one name. -/
theorem isOf_conclude {α : Type} {reading : Reading (Option α)} {value? : Option α}
    {block : Block} {rest : List Journal.Step}
    (h : Reading.Does reading value? (steps block ++ rest))
    (hrest : Journal.names rest = []) {kinds : List String} {kind : String}
    (hkind : block.first? kindField = some kind) (hmem : kind ∈ kinds)
    {failure : LoadFailure}
    (hfailure : (reading.conclude kind).run.value = .error failure) :
    failure.IsOf kinds block := by
  obtain ⟨owner, hgoes, hstart⟩ := perform_steps_eq_start hkind hmem
  have howned : failure.OwnedBy (· = owner) := by
    refine h.ownedBy_conclude ?_ ?_ hfailure
    · rw [hstart]
      exact Journal.ownedBy_start rfl
    · rw [hrest]
      exact nofun
  exact howned.isOf hgoes

variable {κ α : Type} {ofName? : String → Option κ} {unknown : String → Problem}
  {block : Block} {failure : LoadFailure}

theorem names_knownSteps (ofName? : String → Option κ) (unknown : String → Problem)
    (block : Block) : Journal.names (knownSteps ofName? unknown block) = [] := by
  rw [knownSteps]
  split
  · rfl
  · exact Journal.names_report _ _

/-- A block whose kind is not known fails under its own name. -/
theorem isOf_knownKind {kinds : List String}
    (hkinds : ∀ name, (ofName? name).isSome = true ↔ name ∈ kinds)
    (hfailure : ((knownKind ofName? unknown block).conclude block.name).run.value =
      .error failure) : failure.IsOf kinds block := by
  have howned : failure.OwnedBy (· = block.name) := by
    have hdoes : Reading.Does _ _ ([] ++ knownSteps ofName? unknown block) :=
      does_knownKind ofName? unknown block
    have hstart : (Journal.start block.name).OwnedBy (· = block.name) :=
      Journal.ownedBy_start rfl
    refine hdoes.ownedBy_conclude hstart ?_ hfailure
    rw [names_knownSteps]
    exact nofun
  refine howned.isOf ?_
  cases hfirst : block.first? kindField with
  | none => exact .untyped hfirst
  | some name =>
      refine .unknown hfirst fun hmem => ?_
      obtain ⟨kind, hkind⟩ := Option.isSome_iff_exists.mp ((hkinds name).mpr hmem)
      have hknown : known? ofName? block = some kind := by
        rw [known?, hfirst]
        exact hkind
      rw [conclude_knownKind_eq_ok_iff.mpr hknown] at hfailure
      cases hfailure

/-- A definition that fails does so under one name, whether or not it comes to be
    loaded as one of its kind. -/
theorem isOf_of_load {kinds : List String}
    (hkinds : ∀ name, (ofName? name).isSome = true ↔ name ∈ kinds)
    {next : κ → Load α}
    (hnext : ∀ name kind, block.first? kindField = some name → name ∈ kinds →
      ofName? name = some kind → (next kind).run.value = .error failure →
        failure.IsOf kinds block)
    (hfailure : ((knownKind ofName? unknown block).conclude block.name >>=
      next).run.value = .error failure) : failure.IsOf kinds block := by
  obtain hkind | ⟨kind, hkind, hload⟩ := Load.bind_eq_error_cases hfailure
  · exact isOf_knownKind hkinds hkind
  · obtain ⟨name, hfirst, hname⟩ :=
      Option.bind_eq_some_iff.mp (conclude_knownKind_eq_ok_iff.mp hkind)
    refine hnext name kind hfirst ((hkinds name).mp ?_) hname hload
    rw [hname]
    rfl

end Identity

end ContractRules
