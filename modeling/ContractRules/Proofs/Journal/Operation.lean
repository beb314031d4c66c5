import ContractRules.Proofs.Journal.Steps

/-! # Operations — what a journal amounts to, whatever is done to it

    A caller does five things to a journal: it reads fields, asks for conditions,
    takes down diagnostics of its own, renames the owner, and takes over journals
    that were kept in the same way.  An `Operation` is one of them, and a journal
    is `kept` by a row of operations.

    What is recorded on the way depends on the operations and on the owner that
    they start with, and on nothing else (`recorded`, `lastOwner`).  A journal
    keeps its flag and its list apart, but one operation changes both alike
    (`gains_run`), and so does a row of operations (`gains_after`); the two go
    hand in hand, because the operations of a journal that is taken over are a
    row of their own. -/

namespace ContractRules

namespace Journal

/-- One thing that is done to a journal. -/
inductive Operation : Type 1 where
  /-- A field of a block is read. -/
  | field {α : Type} [Readable α] (wanted : Field α) (block : Block)
  /-- A problem is reported unless a condition holds. -/
  | require (holds : Bool) (problem : Problem)
  /-- A diagnostic is taken down, whoever its owner is. -/
  | record (diagnostic : Diagnostic)
  | rename (owner : String)
  /-- A journal is taken over that was kept for an owner by operations. -/
  | absorb (owner : String) (operations : List Operation)

namespace Operation

/-- The type of what an operation hands back. -/
def Answer : Operation → Type
  | @field α _ _ _ => α
  | require _ _ => Bool
  | record _ | rename _ | absorb _ _ => Unit

/-- What an operation hands back. -/
def answer : (operation : Operation) → operation.Answer
  | field wanted block => wanted.worth block
  | require holds _ => holds
  | record _ | rename _ | absorb _ _ => ()

/-- Who the owner is after an operation. -/
def lastOwner (owner : String) : Operation → String
  | rename newOwner => newOwner
  | field _ _ | require _ _ | record _ | absorb _ _ => owner

end Operation

/-- Who the owner is after some operations. -/
def lastOwner (owner : String) (operations : List Operation) : String :=
  operations.foldl Operation.lastOwner owner

mutual

/-- Does one thing to a journal. -/
def Operation.run : (operation : Operation) → Reading operation.Answer
  | @Operation.field α _ wanted block => (Reading.field wanted block : Reading α)
  | .require holds problem => Reading.require holds problem
  | .record diagnostic => Reading.record diagnostic
  | .rename owner => Reading.rename owner
  | .absorb owner operations => modify (·.absorb (after operations (start owner)))

/-- The journal after some operations. -/
def after : List Operation → Journal → Journal
  | [], journal => journal
  | first :: rest, journal => after rest (first.run.run journal).2

end

/-- The journal that some operations keep for an owner. -/
def kept (owner : String) (operations : List Operation) : Journal :=
  after operations (start owner)

mutual

/-- The diagnostics that an operation records on behalf of an owner. -/
def Operation.recorded : Operation → String → List Diagnostic
  | @Operation.field _ _ wanted block, owner =>
    match wanted.read block with
    | .ok _ => []
    | .error fault => [⟨owner, .field fault⟩]
  | .require holds problem, owner => if holds then [] else [⟨owner, problem⟩]
  | .record diagnostic, _ => [diagnostic]
  | .rename _, _ => []
  | .absorb inner operations, _ => recorded operations inner

/-- The diagnostics that some operations record on behalf of an owner, in order. -/
def recorded : List Operation → String → List Diagnostic
  | [], _ => []
  | first :: rest, owner =>
    first.recorded owner ++ recorded rest (first.lastOwner owner)

end

/-! ## What operations change -/

/-- One journal comes out of another one by recording these diagnostics, and has
    this owner in the end. -/
structure Gains (before after : Journal) (owner : String)
    (diagnostics : List Diagnostic) : Prop where
  owner_eq : after.owner = owner
  diagnostics_eq : after.diagnostics = before.diagnostics ++ diagnostics
  valid_eq : after.valid = (before.valid && diagnostics.isEmpty)

theorem Gains.refl (journal : Journal) : Gains journal journal journal.owner [] :=
  ⟨rfl, (List.append_nil _).symm, (Bool.and_true _).symm⟩

/-- What is gained step by step is gained in all. -/
theorem Gains.trans {first second third : Journal} {middle owner : String}
    {before after : List Diagnostic} (hfirst : Gains first second middle before)
    (hsecond : Gains second third owner after) :
    Gains first third owner (before ++ after) where
  owner_eq := hsecond.owner_eq
  diagnostics_eq := by
    rw [hsecond.diagnostics_eq, hfirst.diagnostics_eq, List.append_assoc]
  valid_eq := by
    rw [hsecond.valid_eq, hfirst.valid_eq, Bool.and_assoc]
    cases before <;> rfl

theorem gains_record (journal : Journal) (diagnostic : Diagnostic) :
    Gains journal (journal.record diagnostic) journal.owner [diagnostic] :=
  ⟨rfl, rfl, (Bool.and_false _).symm⟩

/-- A journal that gained from nothing is taken over with what it gained. -/
theorem Gains.absorb {inner : Journal} {owner last : String}
    {diagnostics : List Diagnostic} (h : Gains (start owner) inner last diagnostics)
    (journal : Journal) :
    Gains journal (journal.absorb inner) journal.owner diagnostics where
  owner_eq := rfl
  diagnostics_eq := congrArg (journal.diagnostics ++ ·) h.diagnostics_eq
  valid_eq := congrArg (journal.valid && ·) h.valid_eq

/-- Reading a field gains its fault, if it has one. -/
theorem gains_field {α : Type} [Readable α] (wanted : Field α) (block : Block)
    (journal : Journal) :
    Gains journal ((Reading.field wanted block).run journal).2 journal.owner
      ((Operation.field wanted block).recorded journal.owner) := by
  rw [Operation.recorded]
  cases hread : wanted.read block with
  | ok value =>
      rw [Reading.run_field_of_ok hread]
      exact Gains.refl journal
  | error fault =>
      rw [Reading.run_field_of_error hread]
      exact gains_record journal _

/-- Checking a condition gains its problem if it does not hold. -/
theorem gains_require (holds : Bool) (problem : Problem) (journal : Journal) :
    Gains journal ((Reading.require holds problem).run journal).2 journal.owner
      ((Operation.require holds problem).recorded journal.owner) := by
  rw [Operation.recorded, Reading.run_require]
  cases holds with
  | true => exact Gains.refl journal
  | false => exact gains_record journal _

mutual

/-- One operation records its diagnostics, and nothing else changes but perhaps
    the owner. -/
theorem gains_run (operation : Operation) (journal : Journal) :
    Gains journal (operation.run.run journal).2
      (operation.lastOwner journal.owner) (operation.recorded journal.owner) := by
  cases operation with
  | field wanted block =>
      rw [Operation.run]
      exact gains_field wanted block journal
  | require holds problem =>
      rw [Operation.run]
      exact gains_require holds problem journal
  | record diagnostic =>
      rw [Operation.run, Operation.recorded]
      exact gains_record journal diagnostic
  | rename owner =>
      rw [Operation.run, Operation.recorded]
      exact ⟨rfl, (List.append_nil _).symm, (Bool.and_true _).symm⟩
  | absorb owner operations =>
      rw [Operation.run, Operation.recorded]
      exact (gains_after operations (start owner)).absorb journal

/-- Some operations record their diagnostics one after the other. -/
theorem gains_after (operations : List Operation) (journal : Journal) :
    Gains journal (after operations journal)
      (lastOwner journal.owner operations) (recorded operations journal.owner) := by
  cases operations with
  | nil =>
      rw [after, recorded]
      exact Gains.refl journal
  | cons first rest =>
      have hfirst := gains_run first journal
      have hrest := gains_after rest (first.run.run journal).2
      rw [hfirst.owner_eq] at hrest
      rw [after, recorded]
      exact hfirst.trans hrest

end

/-- Operations in a row go on from the journal that the first ones leave. -/
theorem after_append (first second : List Operation) (journal : Journal) :
    after (first ++ second) journal = after second (after first journal) := by
  induction first generalizing journal with
  | nil => rfl
  | cons operation rest ih =>
      rw [List.cons_append, after, after, ih]

/-- What an operation hands back does not depend on the journal. -/
theorem answer_run (operation : Operation) (journal : Journal) :
    (operation.run.run journal).1 = operation.answer := by
  cases operation with
  | field wanted block =>
      rw [Operation.run]
      exact congrArg Prod.fst (Reading.does_field wanted block journal)
  | require holds problem =>
      rw [Operation.run]
      exact congrArg Prod.fst (Reading.run_require holds problem journal)
  | record diagnostic => rfl
  | rename owner => rfl
  | absorb owner operations => rfl

/-! ## What a kept journal amounts to -/

theorem gains_kept (owner : String) (operations : List Operation) :
    Gains (start owner) (kept owner operations) (lastOwner owner operations)
      (recorded operations owner) :=
  gains_after operations (start owner)

/-- It holds what is recorded and nothing else. -/
theorem diagnostics_kept (owner : String) (operations : List Operation) :
    (kept owner operations).diagnostics = recorded operations owner :=
  (gains_kept owner operations).diagnostics_eq

/-- It is valid exactly if nothing is recorded. -/
theorem valid_kept_iff {owner : String} {operations : List Operation} :
    (kept owner operations).valid = true ↔ recorded operations owner = [] := by
  rw [(gains_kept owner operations).valid_eq, ← List.isEmpty_iff]
  rfl

/-- It fails under its last owner, with all that is recorded. -/
theorem failure_kept (owner : String) (operations : List Operation) :
    (kept owner operations).failure =
      ⟨lastOwner owner operations, recorded operations owner⟩ := by
  rw [failure, (gains_kept owner operations).owner_eq, diagnostics_kept]

/-- More operations keep what was recorded, and never make up for it. -/
theorem kept_append (owner : String) (operations more : List Operation) :
    (kept owner operations).diagnostics <+: (kept owner (operations ++ more)).diagnostics ∧
      ((kept owner operations).valid = false →
        (kept owner (operations ++ more)).valid = false) := by
  have hmore := gains_after more (kept owner operations)
  rw [show kept owner (operations ++ more) = after more (kept owner operations) from
    after_append operations more (start owner)]
  refine ⟨⟨_, hmore.diagnostics_eq.symm⟩, ?_⟩
  intro hinvalid
  rw [hmore.valid_eq, hinvalid]
  rfl

/-- It ends well exactly if nothing is recorded. -/
theorem outcome_kept (owner : String) (operations : List Operation) :
    (kept owner operations).outcome =
      if recorded operations owner = [] then .ok ()
      else .error ⟨lastOwner owner operations, recorded operations owner⟩ := by
  rw [outcome, failure_kept]
  exact ite_congr (propext valid_kept_iff) (fun _ => rfl) fun _ => rfl

/-- A journal that is closed without a value fails with something to say. -/
theorem close_none_kept {α : Type} (owner : String) (operations : List Operation) :
    ((kept owner operations).close (none : Option α)).value =
      .error ⟨lastOwner owner operations,
        if recorded operations owner = [] then
          [⟨lastOwner owner operations, .incomplete⟩]
        else recorded operations owner⟩ := by
  have hvalid := @valid_kept_iff owner operations
  by_cases hclean : recorded operations owner = []
  · rw [close, if_pos (hvalid.mpr hclean), if_pos hclean, report, record, failure,
      (gains_kept owner operations).owner_eq, diagnostics_kept, hclean]
    rfl
  · rw [close, if_neg fun h => hclean (hvalid.mp h), if_neg hclean, failure_kept]

/-- Closing a journal with a value succeeds and fails as the journal does. -/
theorem close_some_eq_iff {α : Type} {journal : Journal} {value : α} :
    ((journal.close (some value)).value = .ok value ↔ journal.outcome = .ok ()) ∧
      ∀ failure, (journal.close (some value)).value = .error failure ↔
        journal.outcome = .error failure := by
  rw [close]
  cases journal.outcome with
  | ok found =>
      refine ⟨iff_of_true rfl rfl, fun failure => ?_⟩
      constructor <;> intro h <;> cases h
  | error reason =>
      constructor
      · constructor <;> intro h <;> cases h
      · intro failure
        show Except.error reason = _ ↔ _
        rw [Except.error.injEq, Except.error.injEq]

/-- **A journal amounts to what was recorded in it**, whatever was done to it.
    It is valid exactly if nothing was recorded, and what was recorded stays.
    What an operation hands back does not depend on the journal.  The outcome is a
    failure exactly if something was recorded, and the failure has all of it, in
    order and under the owner of the end.  Closing with a value comes to the same;
    closing without one fails in any case, and never with nothing to say. -/
theorem kept_amounts_to_recorded (owner : String) (operations : List Operation) :
    ((kept owner operations).owner = lastOwner owner operations ∧
      (kept owner operations).diagnostics = recorded operations owner ∧
      ((kept owner operations).valid = true ↔
        (kept owner operations).diagnostics = [])) ∧
      (∀ more, (kept owner operations).diagnostics <+:
          (kept owner (operations ++ more)).diagnostics ∧
        ((kept owner operations).valid = false →
          (kept owner (operations ++ more)).valid = false)) ∧
      (∀ (operation : Operation) (journal : Journal),
        (operation.run.run journal).1 = operation.answer) ∧
      (kept owner operations).outcome =
        (if recorded operations owner = [] then .ok ()
          else .error ⟨lastOwner owner operations, recorded operations owner⟩) ∧
      (∀ (α : Type) (value : α),
        (((kept owner operations).close (some value)).value = .ok value ↔
          (kept owner operations).outcome = .ok ()) ∧
        ∀ failure, ((kept owner operations).close (some value)).value = .error failure ↔
          (kept owner operations).outcome = .error failure) ∧
      ∀ α : Type, ((kept owner operations).close (none : Option α)).value =
        .error ⟨lastOwner owner operations,
          if recorded operations owner = [] then
            [⟨lastOwner owner operations, .incomplete⟩]
          else recorded operations owner⟩ := by
  refine ⟨⟨(gains_kept owner operations).owner_eq, diagnostics_kept owner operations, ?_⟩,
    kept_append owner operations, answer_run, outcome_kept owner operations,
    fun _ _ => close_some_eq_iff, fun _ => close_none_kept owner operations⟩
  rw [diagnostics_kept]
  exact valid_kept_iff

/-- A journal that is taken over brings its diagnostics under its own owners, and
    leaves the owner alone. -/
example :
    kept "A" [.rename "B",
        .absorb "C" [.require false (.custom "first"), .rename "D",
          .absorb "E" [.record ⟨"F", .custom "second"⟩], .require true .incomplete],
        .field (.required "name" : Field String) (.empty "N")] =
      ⟨"B", false,
        [⟨"C", .custom "first"⟩, ⟨"F", .custom "second"⟩,
          ⟨"B", .field (.missing "name")⟩],
        [.recorded "C" ⟨"C", .custom "first"⟩, .recorded "E" ⟨"F", .custom "second"⟩,
          .recorded "B" ⟨"B", .field (.missing "name")⟩]⟩ := rfl

end Journal

end ContractRules
