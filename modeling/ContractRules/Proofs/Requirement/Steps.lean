import ContractRules.Requirement.Session
import ContractRules.Proofs.Definition.Steps

/-! # The steps of reading requirements

    A requirement is read in two ways, from its definition and from saved state.
    Both take the same view of a block: there is one base that the block gives
    (`Base.ofBlock`) and one target that it names (`Target.named?`).  The ways
    differ in the order of their fields, in what they report, and in how the
    counts are asked for. -/

namespace ContractRules

open Reading

/-! ## The base -/

namespace Requirement.Base

/-- The base that a block gives. -/
def ofBlock (block : Block) : Base where
  name := (Identity.ofBlock block).name
  kind := (Identity.ofBlock block).kind
  inverted := (Field.optional "invertRequirement" false).worth block
  checkedWhileActive := (Field.optional "checkOnActiveContract" true).worth block
  title? := (Field.optional "title" none).worth block

/-- The steps of reading a base from a definition. -/
def loadSteps (block : Block) : List Journal.Step :=
  Identity.steps block ++
    ((Field.optional "invertRequirement" false).steps block ++
      (Field.optional "checkOnActiveContract" true).steps block)

/-- The steps of reading a base from saved state, which leaves one flag out. -/
def restoreSteps (block : Block) : List Journal.Step :=
  Identity.steps block ++ (Field.optional "invertRequirement" false).steps block

private theorem steps_title (block : Block) :
    (Field.optional "title" none : Field (Option String)).steps block = [] :=
  Field.steps_of_ok (Field.read_optional_text? "title" block)

theorem does_load (block : Block) :
    Does (load block) (ofBlock block) (loadSteps block) := by
  refine Does.congr (does_bind (Identity.does_load block)
    (does_bind (does_field _ _) (does_bind (does_field _ _)
      (does_bind (does_field _ _) (does_pure _))))) rfl ?_
  rw [steps_title, List.append_nil, List.append_nil]
  rfl

/-- Restoring a base takes the same steps and leaves the check of active contracts on.
    -/
theorem does_restore (block : Block) :
    Does (restore block) { ofBlock block with checkedWhileActive := true }
      (restoreSteps block) := by
  refine Does.congr (does_bind (Identity.does_load block)
    (does_bind (does_field _ _) (does_bind (does_field _ _) (does_pure _)))) rfl ?_
  rw [steps_title, List.append_nil, List.append_nil]
  rfl

end Requirement.Base

/-! ## The target -/

namespace Target

/-- The target that a block names: the given tag, or what its contract type
    means. -/
def named? (registry : Registry) (block : Block) : Option String → Option Target
  | some name => some (.tag name)
  | none => ((block.first? Problem.typeField).bind registry.resolve?).map .type

/-- The steps of resolving an identifier: it means nothing, or it may have two
    readings. -/
def resolveSteps (registry : Registry) (identifier : String) : List Journal.Step :=
  match registry.resolve? identifier with
  | none => [.report (.unresolvedType identifier)]
  | some _ => if registry.isShadowed identifier then [.shadow identifier] else []

/-- The steps of reading a target: none with a tag, and otherwise those of the
    contract type. -/
def loadSteps (registry : Registry) (block : Block) :
    Option String → List Journal.Step
  | some _ => []
  | none =>
      match block.first? Problem.typeField with
      | none => [.report (.field (.missing Problem.typeField))]
      | some identifier => resolveSteps registry identifier

/-- Only an identifier that means something can be shadowed. -/
theorem isShadowed_of_resolve?_eq_none {registry : Registry} {identifier : String}
    (h : registry.resolve? identifier = none) :
    registry.isShadowed identifier = false := by
  rw [Registry.resolve?] at h
  rw [Registry.isShadowed]
  cases hfor : registry.declarativeFor? identifier with
  | none => rfl
  | some type =>
      rw [hfor] at h
      cases h

/-- What is done with an identifier once it is read: the owner is asked for, so
    this part looks at the journal. -/
private theorem run_resolve (registry : Registry) (identifier : String)
    (journal : Journal) :
    StateT.run (match (registry.resolve journal.owner identifier).value with
      | .ok ref => (pure (some (.type ref)) : Reading (Option Target))
      | .error diagnostic => do
          Reading.record diagnostic
          return none)
      (journal.tell (registry.resolve journal.owner identifier).events) =
    ((registry.resolve? identifier).map .type,
      journal.perform (resolveSteps registry identifier)) := by
  rw [Registry.resolve, resolveSteps]
  cases hresolve : registry.resolve? identifier with
  | none =>
      rw [isShadowed_of_resolve?_eq_none hresolve, if_neg Bool.false_ne_true,
        Journal.tell_nil]
      rfl
  | some ref =>
      cases hshadow : registry.isShadowed identifier with
      | false =>
          rw [if_neg Bool.false_ne_true, Journal.tell_nil]
          rfl
      | true => rfl

theorem does_load (registry : Registry) (block : Block) (tag? : Option String) :
    Does (load registry block tag?) (named? registry block tag?)
      (loadSteps registry block tag?) := by
  cases tag? with
  | some name => exact does_pure _
  | none =>
      have hread := Field.read_required_text? Problem.typeField block
      rw [named?, loadSteps]
      cases hfirst : block.first? Problem.typeField with
      | none =>
          rw [hfirst] at hread
          refine Does.congr (does_bind (does_field _ _)
            (?_ : Does _ none [])) rfl ?_
          · rw [Field.worth, hread]
            exact does_pure none
          · rw [Field.steps, hread]
            rfl
      | some identifier =>
          rw [hfirst] at hread
          refine does_bind_of_ok
            (show Field.read _ block = .ok (some identifier) from hread) ?_
          exact run_resolve registry identifier

end Target

/-! ## The whole requirement -/

namespace Requirement

/-- The steps of reading a requirement from its definition. -/
def loadSteps (registry : Registry) (block : Block) : List Journal.Step :=
  Base.loadSteps block ++
    (Target.loadSteps registry block (block.first? "tag") ++
      ((Field.optional "minCount" 1 : Field UInt32).steps block ++
        ((Field.optional "maxCount" unbounded).steps block ++
          if (Field.optional "minCount" 1).worth block ≤
              (Field.optional "maxCount" unbounded).worth block then []
          else [.report (.crossedCounts ((Field.optional "minCount" 1).worth block)
            ((Field.optional "maxCount" unbounded).worth block))])))

/-- The steps of reading the state of a requirement whose base is known. -/
def stateSteps (registry : Registry) (block : Block) : List Journal.Step :=
  (Field.required "minCount" : Field UInt32).steps block ++
    ((Field.required "maxCount" : Field UInt32).steps block ++
      ((Field.optional "checkOnActiveContract" true).steps block ++
        Target.loadSteps registry block (block.first? "tag")))

/-- Reading a definition takes these steps, and builds what the target allows. -/
theorem does_reading (registry : Registry) (kind : Kind) (block : Block) :
    Does (reading registry kind block)
      ((Target.named? registry block (block.first? "tag")).map fun target =>
        ⟨Base.ofBlock block, kind, target,
          (Field.optional "minCount" 1).worth block,
          (Field.optional "maxCount" unbounded).worth block⟩)
      (loadSteps registry block) := by
  have htag := Field.read_optional_text? "tag" block
  refine Does.congr (does_bind (Base.does_load block)
    (does_bind_of_ok htag (does_bind (Target.does_load registry block _)
      (does_bind (does_field _ _) (does_bind (does_field _ _)
        (does_bind (does_require _ _) (does_pure _))))))) rfl ?_
  rw [List.append_nil]
  simp only [loadSteps, decide_eq_true_eq]

/-- Reading a saved state takes these steps, and builds what the target allows. -/
theorem does_stateReading (registry : Registry) (kind : Kind) (base : Base)
    (block : Block) :
    Does (stateReading registry kind base block)
      ((Target.named? registry block (block.first? "tag")).map fun target =>
        ⟨{ base with checkedWhileActive :=
            (Field.optional "checkOnActiveContract" true).worth block },
          kind, target, (Field.required "minCount").worth block,
          (Field.required "maxCount").worth block⟩)
      (stateSteps registry block) := by
  refine Does.congr (does_bind (does_field _ _) (does_bind (does_field _ _)
    (does_bind (does_field _ _) (does_bind (Target.does_load registry block _)
      (does_pure _))))) rfl ?_
  rw [List.append_nil]
  rfl

/-- The steps of looking up the kind of saved state. -/
def savedKindSteps (block : Block) : List Journal.Step :=
  Base.restoreSteps block ++
    if (Base.ofBlock block).kind = "" ∨
        (Kind.ofName? (Base.ofBlock block).kind).isSome then []
    else [.report (.unknownRequirement (Base.ofBlock block).kind)]

/-- Reading a saved base takes these steps, and finds the kind that it names. -/
theorem does_savedKind (block : Block) :
    Does (savedKind block)
      ((Kind.ofName? (Base.ofBlock block).kind).map fun kind =>
        ({ Base.ofBlock block with checkedWhileActive := true }, kind))
      (savedKindSteps block) := by
  refine does_bind (Base.does_restore block) ?_
  by_cases h : (Base.ofBlock block).kind = ""
  · rw [if_pos h, if_pos (Or.inl h), h]
    exact does_pure none
  · rw [if_neg h]
    refine Does.congr (does_bind (does_require _ _) (does_pure _)) rfl ?_
    rw [List.append_nil]
    simp only [h, false_or]

end Requirement

end ContractRules
