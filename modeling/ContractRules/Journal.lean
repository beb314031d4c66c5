import ContractRules.Event

/-!
# Journals — checking a definition without stopping at the first problem

A journal belongs to one load. It knows the owner that problems are attributed to,
whether anything has gone wrong, and every diagnostic so far. A step that fails
leaves a diagnostic and goes on with a placeholder; whether the load succeeded is
asked once, when the journal is closed.

`Reading` is a computation that keeps a journal. Each recorded diagnostic is also
an event, so the log and the outcome agree.
-/

namespace ContractRules

/-- What a load has found out so far. -/
structure Journal where
  /-- Who the next problem is attributed to. -/
  owner : String
  /-- Whether nothing has gone wrong. -/
  valid : Bool
  /-- What has gone wrong, in order. -/
  diagnostics : List Diagnostic
  /-- What the log was told, in order. -/
  events : List Event
  deriving Repr, DecidableEq

namespace Journal

/-- The journal of a load that has not begun. -/
def start (owner : String) : Journal := ⟨owner, true, [], []⟩

/-- Attributes problems to another owner from now on. -/
def rename (journal : Journal) (owner : String) : Journal :=
  { journal with owner := owner }

/-- Tells the log an event. -/
def tell (journal : Journal) (events : List Event) : Journal :=
  { journal with events := journal.events ++ events }

/-- Takes down a diagnostic, whoever its owner is. -/
def record (journal : Journal) (diagnostic : Diagnostic) : Journal :=
  { journal with
    valid := false
    diagnostics := journal.diagnostics ++ [diagnostic]
    events := journal.events ++ [.recorded journal.owner diagnostic] }

/-- Takes down a problem of the journal's owner. -/
def report (journal : Journal) (problem : Problem) : Journal :=
  journal.record ⟨journal.owner, problem⟩

/-- Takes over what another journal found out; the owner stays. -/
def absorb (journal inner : Journal) : Journal :=
  { journal with
    valid := journal.valid && inner.valid
    diagnostics := journal.diagnostics ++ inner.diagnostics
    events := journal.events ++ inner.events }

/-- The failure that a journal amounts to. -/
def failure (journal : Journal) : LoadFailure :=
  ⟨journal.owner, journal.diagnostics⟩

/-- Whether the load succeeded. -/
def outcome (journal : Journal) : Except LoadFailure Unit :=
  if journal.valid then .ok () else .error journal.failure

/-- Closes a journal with the value that was built, if one was. A load that built
    nothing fails, and says so if it has nothing else to say. -/
def close {α : Type} (journal : Journal) (value? : Option α) :
    Logged (Except LoadFailure α) :=
  match value? with
  | some value => ⟨journal.outcome.map fun _ => value, journal.events⟩
  | none =>
    let last := if journal.valid then journal.report .incomplete else journal
    ⟨.error last.failure, last.events⟩

end Journal

/-- A computation that keeps a journal. -/
abbrev Reading (α : Type) := StateM Journal α

/-- A computation that may fail as a load does, and that tells events. -/
abbrev Load (α : Type) := ExceptT LoadFailure Logged α

namespace Reading

variable {α : Type}

/-- Who problems are attributed to now. -/
def owner : Reading String := return (← get).owner

/-- Attributes problems to another owner from now on. -/
def rename (owner : String) : Reading Unit := modify (·.rename owner)

/-- Takes down a diagnostic, whoever its owner is. -/
def record (diagnostic : Diagnostic) : Reading Unit := modify (·.record diagnostic)

/-- Reads a field of a block. A fault is taken down, and the placeholder of the
    type stands in for the value. -/
def field [Readable α] (field : Field α) (block : Block) : Reading α := do
  match field.read block with
  | .ok value => return value
  | .error fault =>
    modify (·.report (.field fault))
    return Readable.placeholder

/-- Takes down a problem unless a condition holds, and returns the condition. -/
def require (holds : Bool) (problem : Problem) : Reading Bool := do
  unless holds do modify (·.report problem)
  return holds

/-- Runs a logged computation and takes over its events. -/
def logged (computation : Logged α) : Reading α := do
  modify (·.tell computation.events)
  return computation.value

/-- Runs a whole load: it starts a journal for the owner, and closes it with what
    the reading built. -/
def conclude (reading : Reading (Option α)) (owner : String) : Load α :=
  let (value?, journal) := reading.run (.start owner)
  journal.close value?

/-! ## What a step does to the journal -/

@[simp] theorem run_owner (journal : Journal) :
    owner.run journal = (journal.owner, journal) := rfl

@[simp] theorem run_rename (name : String) (journal : Journal) :
    (rename name).run journal = ((), journal.rename name) := rfl

@[simp] theorem run_record (diagnostic : Diagnostic) (journal : Journal) :
    (record diagnostic).run journal = ((), journal.record diagnostic) := rfl

@[simp] theorem run_logged (computation : Logged α) (journal : Journal) :
    (logged computation).run journal =
      (computation.value, journal.tell computation.events) := rfl

@[simp] theorem run_require (holds : Bool) (problem : Problem) (journal : Journal) :
    (require holds problem).run journal =
      (holds, if holds then journal else journal.report problem) := by
  cases holds <;> rfl

/-- A field that reads leaves the journal alone. -/
theorem run_field_of_ok [Readable α] {f : Field α} {block : Block} {value : α}
    (h : f.read block = .ok value) (journal : Journal) :
    (field f block).run journal = (value, journal) := by
  unfold field
  rw [h]
  rfl

/-- A field that does not read is reported, and its placeholder goes on. -/
theorem run_field_of_error [Readable α] {f : Field α} {block : Block}
    {fault : FieldFault} (h : f.read block = .error fault) (journal : Journal) :
    (field f block).run journal =
      (Readable.placeholder, journal.report (.field fault)) := by
  unfold field
  rw [h]
  rfl

end Reading

/-- Tells an event in the middle of a load. -/
def Load.tell (event : Event) : Load Unit := ExceptT.lift (Logged.tell event)

end ContractRules
