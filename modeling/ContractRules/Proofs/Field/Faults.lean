import ContractRules.Proofs.Field.Spelling
import ContractRules.Proofs.Journal.Report
import Mathlib.Data.List.ReduceOption

/-! # Faults — what can be wrong with one field of a block

    There are two faults.  A field that the block has to have may be missing, and
    a scalar field that is there may be misspelt: its first value spells nothing
    of its kind.  Both are said of the block alone (`Block.missing?`,
    `Block.misspelt?`), and both name the field.

    Reading a field reports its fault and nothing else, so the problems of a
    field's steps are the fault, if there is one (`SpeltBy.problems_optional`,
    `SpeltBy.problems_required`). -/

namespace ContractRules

/-- Of a list of faults that there may be, each one stands at its place. -/
theorem reduceOption_cons {α : Type} (first : Option α) (rest : List (Option α)) :
    (first :: rest).reduceOption = first.toList ++ rest.reduceOption := by
  rw [← List.singleton_append, List.reduceOption_append,
    List.reduceOption_singleton]

namespace Block

/-- The fault of a field that a block has to have and does not have. -/
def missing? (block : Block) (key : String) : Option Problem :=
  if block.has key then none else some (.field (.missing key))

/-- The fault of a field whose first value is there and is not spelt as its kind
    asks. -/
def misspelt? (kind : ValueKind) (reason : ReadFault) (IsSpelt : String → Prop)
    [DecidablePred IsSpelt] (block : Block) (key : String) : Option Problem :=
  match block.first? key with
  | none => none
  | some raw =>
    if IsSpelt raw then none else some (.field (.unreadable key raw kind reason))

/-- The fault of a truth value that a block can leave out. -/
def flagFault? : Block → String → Option Problem :=
  misspelt? .flag .notFlag fun raw => ∃ flag, SpellsFlag raw flag

/-- The fault of a count that a block can leave out. -/
def countFault? : Block → String → Option Problem :=
  misspelt? .count .notCount fun raw => ∃ count, SpellsCount raw count

/-- The fault of a count that a block has to have. -/
def requiredCountFault? (block : Block) (key : String) : Option Problem :=
  (block.missing? key).or (block.countFault? key)

/-- Of a value that is there the spelling alone matters. -/
theorem misspelt?_of_first? {kind : ValueKind} {reason : ReadFault}
    {IsSpelt : String → Prop} [DecidablePred IsSpelt] {block : Block}
    {key raw : String} (hfirst : block.first? key = some raw) :
    misspelt? kind reason IsSpelt block key =
      if IsSpelt raw then none
      else some (.field (.unreadable key raw kind reason)) := by
  rw [misspelt?, hfirst]

/-! ## A fault names its field -/

theorem field?_of_missing? {block : Block} {key : String} {fault : Problem}
    (h : block.missing? key = some fault) : fault.field? = some key := by
  rw [missing?] at h
  split at h
  · cases h
  · rw [← Option.some.inj h]
    rfl

theorem field?_of_misspelt? {kind : ValueKind} {reason : ReadFault}
    {IsSpelt : String → Prop} [DecidablePred IsSpelt] {block : Block} {key : String}
    {fault : Problem} (h : misspelt? kind reason IsSpelt block key = some fault) :
    fault.field? = some key := by
  rw [misspelt?] at h
  split at h
  · cases h
  split at h
  · cases h
  · rw [← Option.some.inj h]
    rfl

/-! ## A field without a fault gives a value -/

/-- A field is not missing exactly if it has a first value. -/
theorem missing?_eq_none_iff {block : Block} {key : String} :
    block.missing? key = none ↔ ∃ raw, block.first? key = some raw := by
  rw [missing?, has]
  cases block.first? key with
  | none => exact iff_of_false nofun nofun
  | some raw => exact iff_of_true rfl ⟨raw, rfl⟩

/-- A value is not at fault exactly if the block gives one, or leaves it to the
    default. -/
theorem misspelt?_eq_none_iff {α : Type} {Spells : String → α → Prop}
    [DecidablePred fun raw => ∃ value, Spells raw value] {kind : ValueKind}
    {reason : ReadFault} {block : Block} {key : String} (default : α) :
    misspelt? kind reason (fun raw => ∃ value, Spells raw value) block key = none ↔
      ∃ value, block.Gives Spells key default value := by
  rw [misspelt?]
  simp only [Gives]
  cases block.first? key with
  | none => exact iff_of_true rfl ⟨default, rfl⟩
  | some raw =>
      show ite _ _ _ = none ↔ ∃ value, Spells raw value
      rw [ite_eq_left_iff]
      simp

end Block

/-! ## Reading reports the fault -/

/-- A field reads exactly if there is no problem with it. -/
theorem Field.problems_steps_eq_nil_iff {α : Type} [Readable α] {field : Field α}
    {block : Block} :
    Journal.problems (field.steps block) = [] ↔ ∃ value, field.read block = .ok value := by
  simp only [read_eq_ok_iff, Journal.all_isHarmless_iff, exists_and_left, exists_eq',
    and_true]

/-- A required text can only be missing. -/
theorem Field.problems_required_text (block : Block) (key : String) :
    Journal.problems ((required key : Field String).steps block) =
      (block.missing? key).toList := by
  rw [steps, read_required_text, Block.missing?, Block.has]
  cases block.first? key <;> rfl

namespace SpeltBy

variable {α : Type} [Readable α] {Spells : String → α → Prop}
  [DecidablePred fun raw => ∃ value, Spells raw value] {reason : ReadFault}

/-- A field that reads its first value reports how that is misspelt. -/
theorem problems_ofFirst (h : SpeltBy α Spells reason) {block : Block}
    {field : Field α} {key raw : String} (hfirst : block.first? key = some raw)
    (hread : field.read block = Field.ofFirst key raw) :
    Journal.problems (field.steps block) =
      (block.misspelt? (Readable.kind α) reason
        (fun raw => ∃ value, Spells raw value) key).toList := by
  rw [Field.steps, hread, Block.misspelt?_of_first? hfirst]
  by_cases hraw : ∃ value, Spells raw value
  · obtain ⟨value, hvalue⟩ := hraw
    rw [h.ofFirst_eq_ok_iff.mpr hvalue, if_pos ⟨value, hvalue⟩]
    rfl
  · rw [h.ofFirst_eq_error hraw, if_neg hraw]
    rfl

/-- An optional field can only be misspelt. -/
theorem problems_optional (h : SpeltBy α Spells reason) (block : Block)
    (key : String) (default : α) :
    Journal.problems ((Field.optional key default).steps block) =
      (block.misspelt? (Readable.kind α) reason
        (fun raw => ∃ value, Spells raw value) key).toList := by
  have hread := Field.read_optional h.scalar key default block
  cases hfirst : block.first? key with
  | none =>
      rw [hfirst] at hread
      rw [Field.steps, hread, Block.misspelt?, hfirst]
      rfl
  | some raw =>
      rw [hfirst] at hread
      exact h.problems_ofFirst hfirst hread

/-- A required field can be missing or misspelt. -/
theorem problems_required (h : SpeltBy α Spells reason) (block : Block)
    (key : String) :
    Journal.problems ((Field.required key : Field α).steps block) =
      ((block.missing? key).or (block.misspelt? (Readable.kind α) reason
        (fun raw => ∃ value, Spells raw value) key)).toList := by
  have hread := Field.read_required h.scalar key block
  cases hfirst : block.first? key with
  | none =>
      rw [hfirst] at hread
      rw [Field.steps, hread, Block.missing?, Block.has, hfirst]
      rfl
  | some raw =>
      rw [hfirst] at hread
      rw [h.problems_ofFirst hfirst hread, Block.missing?, Block.has, hfirst]
      rfl

end SpeltBy

theorem Field.problems_optional_flag (block : Block) (key : String)
    (default : Bool) :
    Journal.problems ((optional key default).steps block) =
      (block.flagFault? key).toList :=
  speltBy_flag.problems_optional block key default

theorem Field.problems_optional_count (block : Block) (key : String)
    (default : UInt32) :
    Journal.problems ((optional key default).steps block) =
      (block.countFault? key).toList :=
  speltBy_count.problems_optional block key default

theorem Field.problems_required_count (block : Block) (key : String) :
    Journal.problems ((required key : Field UInt32).steps block) =
      (block.requiredCountFault? key).toList :=
  speltBy_count.problems_required block key

end ContractRules
