import ContractRules.Definition.Identity
import ContractRules.Proofs.Field.Faults

/-! # The steps of reading an identity

    Every definition begins with its kind and its name.  The name is never at
    fault, so the only problem that can be reported here is a missing kind; then
    the journal goes by the name from there on, unless the name is empty. -/

namespace ContractRules

open Reading

namespace Identity

/-- The identity that a block gives; a missing kind is worth the empty text. -/
def ofBlock (block : Block) : Identity where
  name := (Field.optional "name" ((Field.required kindField).worth block)).worth block
  kind := (Field.required kindField).worth block

/-- With its kind there, an identity is the first name and the kind. -/
theorem ofBlock_eq {block : Block} {kind : String}
    (h : block.first? kindField = some kind) :
    ofBlock block = ⟨(block.first? "name").getD kind, kind⟩ := by
  have hkind : (Field.required kindField).worth block = kind := by
    refine Field.worth_of_ok ?_
    rw [Field.read_required_text, h]
    rfl
  rw [ofBlock, hkind]
  congr 1
  exact Field.worth_of_ok (Field.read_optional_text "name" kind block)

/-- A missing kind is reported, and a name that is not empty is taken over. -/
def steps (block : Block) : List Journal.Step :=
  (Field.required kindField : Field String).steps block ++
    if (ofBlock block).name ≠ "" then [.rename (ofBlock block).name] else []

/-- All that can be wrong with an identity is that the kind is missing. -/
theorem problems_steps (block : Block) :
    Journal.problems (steps block) = (block.missing? kindField).toList := by
  have hrename : Journal.problems (if (ofBlock block).name ≠ "" then
      [.rename (ofBlock block).name] else []) = [] := by
    split <;> rfl
  rw [steps, Journal.problems_append, hrename, List.append_nil,
    Field.problems_required_text]

theorem does_load (block : Block) : Does (load block) (ofBlock block) (steps block) := by
  have hname : (Field.optional "name"
      ((Field.required kindField).worth block)).steps block = [] :=
    Field.steps_of_ok (Field.read_optional_text _ _ _)
  refine Does.congr (does_bind (does_field _ _) (does_bind (does_field _ _)
    (does_when (does_rename _) (does_pure _)))) rfl ?_
  rw [hname, List.nil_append, List.append_nil]
  rfl

/-- The kind that a block names, if it is known. -/
def known? {κ : Type} (ofName? : String → Option κ) (block : Block) : Option κ :=
  (block.first? kindField).bind ofName?

/-- A missing kind is reported, and so is one that is not known. -/
def knownSteps {κ : Type} (ofName? : String → Option κ)
    (unknown : String → Problem) (block : Block) : List Journal.Step :=
  match block.first? kindField with
  | none => [.report (.field (.missing kindField))]
  | some name => if (ofName? name).isSome then [] else [.report (unknown name)]

theorem does_knownKind {κ : Type} (ofName? : String → Option κ)
    (unknown : String → Problem) (block : Block) :
    Does (knownKind ofName? unknown block) (known? ofName? block)
      (knownSteps ofName? unknown block) := by
  have hread := Field.read_required_text? kindField block
  rw [known?, knownSteps]
  cases hfirst : block.first? kindField with
  | none =>
      rw [hfirst] at hread
      refine Does.congr (does_bind (does_field _ _)
        (?_ : Does _ none [])) rfl ?_
      · rw [Field.worth, hread]
        exact does_pure none
      · rw [Field.steps, hread]
        rfl
  | some name =>
      rw [hfirst] at hread
      exact Does.congr (does_bind_of_ok
        (show Field.read _ block = .ok (some name) from hread)
        (does_bind (does_require _ _) (does_pure _))) rfl (List.append_nil _)

/-- A kind that a catalogue finds under a name has that name. -/
theorem eq_name_of_find? {κ : Type} {catalog : List κ} {name : κ → String} {text : String}
    {kind : κ} (h : catalog.find? (name · == text) = some kind) : text = name kind :=
  (beq_iff_eq.mp (List.find?_some h :)).symm

/-- A catalogue finds the names of its kinds. -/
theorem isSome_find?_iff {κ : Type} {catalog : List κ} {name : κ → String} {text : String} :
    (catalog.find? (name · == text)).isSome = true ↔ text ∈ catalog.map name := by
  simp only [List.find?_isSome, beq_iff_eq, List.mem_map]

/-- The kind of a definition is found exactly when the block names a known one. -/
theorem conclude_knownKind_eq_ok_iff {κ : Type} {ofName? : String → Option κ}
    {unknown : String → Problem} {block : Block} {owner : String} {kind : κ} :
    ((knownKind ofName? unknown block).conclude owner).run.value = .ok kind ↔
      known? ofName? block = some kind := by
  rw [(does_knownKind ofName? unknown block).conclude_eq_ok_iff]
  refine and_iff_left_of_imp ?_
  intro h
  obtain ⟨name, hfirst, hname⟩ := Option.bind_eq_some_iff.mp h
  rw [knownSteps, hfirst]
  show (if (ofName? name).isSome = true then [] else _).all _ = true
  rw [hname]
  rfl

end Identity

end ContractRules
