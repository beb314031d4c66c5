import ContractRules.Proofs.Journal.Operation

/-! # Nesting — a journal that is taken over need not have been kept apart

    A nested journal begins with nothing, so all that it holds in the end was added
    by its operations.  The same operations add the same to a journal that holds
    something already: that journal is `continued` by the nested one.

    One operation continues a continued journal as it continues the nested one
    alone (`run_continued`), and so does a row of operations (`after_continued`).
    An operation that takes over a third journal is no exception, because taking
    over is associative (`continued_absorb`).  So a nested journal can be done
    without: what is left of it is a change of the owner, and back
    (`after_absorb_eq_inline`). -/

namespace ContractRules

namespace Journal

/-- A journal, then one that was kept apart: all that both hold, in this order, and
    the owner of the second. -/
def continued (journal inner : Journal) : Journal :=
  (journal.absorb inner).rename inner.owner

/-- A journal that holds nothing yet has its owner only. -/
theorem continued_start (journal : Journal) (owner : String) :
    journal.continued (start owner) = journal.rename owner := by
  simp only [continued, absorb, start, rename, Bool.and_true, List.append_nil]

/-- A diagnostic that an inner journal takes down continues the outer one. -/
theorem continued_record (journal inner : Journal) (diagnostic : Diagnostic) :
    (journal.continued inner).record diagnostic =
      journal.continued (inner.record diagnostic) := by
  simp only [continued, absorb, rename, record, Bool.and_false, List.append_assoc]

theorem continued_absorb (journal inner innermost : Journal) :
    (journal.continued inner).absorb innermost =
      journal.continued (inner.absorb innermost) := by
  simp only [continued, absorb, rename, Bool.and_assoc, List.append_assoc]

/-- A field that an inner journal reads continues the outer one. -/
theorem field_continued {α : Type} [Readable α] (wanted : Field α) (block : Block)
    (journal inner : Journal) :
    ((Reading.field wanted block).run (journal.continued inner)).2 =
      journal.continued ((Reading.field wanted block).run inner).2 := by
  cases hread : wanted.read block with
  | ok value => rw [Reading.run_field_of_ok hread, Reading.run_field_of_ok hread]
  | error fault =>
      rw [Reading.run_field_of_error hread, Reading.run_field_of_error hread]
      exact continued_record journal inner _

theorem require_continued (holds : Bool) (problem : Problem)
    (journal inner : Journal) :
    ((Reading.require holds problem).run (journal.continued inner)).2 =
      journal.continued ((Reading.require holds problem).run inner).2 := by
  rw [Reading.run_require, Reading.run_require]
  cases holds with
  | true => rfl
  | false => exact continued_record journal inner _

/-- **One operation does not look back**: on a continued journal it does what it
    does on the second journal alone. -/
theorem run_continued (operation : Operation) (journal inner : Journal) :
    (operation.run.run (journal.continued inner)).2 =
      journal.continued (operation.run.run inner).2 := by
  cases operation with
  | field wanted block =>
      rw [Operation.run]
      exact field_continued wanted block journal inner
  | require holds problem =>
      rw [Operation.run]
      exact require_continued holds problem journal inner
  | record diagnostic =>
      rw [Operation.run]
      exact continued_record journal inner diagnostic
  | rename owner =>
      rw [Operation.run]
      rfl
  | absorb owner operations =>
      rw [Operation.run]
      exact continued_absorb journal inner (after operations (start owner))

/-- No row of operations looks back. -/
theorem after_continued (operations : List Operation) (journal inner : Journal) :
    after operations (journal.continued inner) =
      journal.continued (after operations inner) := by
  induction operations generalizing inner with
  | nil => rfl
  | cons first rest ih =>
      rw [after, after, run_continued]
      exact ih (first.run.run inner).2

/-- Under another owner, operations add to a journal what they keep for that owner
    alone. -/
theorem after_rename (operations : List Operation) (journal : Journal)
    (owner : String) :
    after operations (journal.rename owner) =
      journal.continued (kept owner operations) := by
  rw [← continued_start]
  exact after_continued operations journal (start owner)

/-- **Taking over is doing it oneself.**  A journal that takes over one that was
    kept for an owner ends up as if it had changed to that owner, gone through the
    same operations itself, and changed back: with the same owner, flag and
    diagnostics, and having told the log the same in the same order. -/
theorem after_absorb_eq_inline (journal : Journal) (owner : String)
    (operations : List Operation) :
    after [.absorb owner operations] journal =
      after (.rename owner :: operations ++ [.rename journal.owner]) journal :=
  calc after [.absorb owner operations] journal
    _ = journal.absorb (kept owner operations) := rfl
    _ = (journal.continued (kept owner operations)).rename journal.owner := rfl
    _ = (after operations (journal.rename owner)).rename journal.owner := by
      rw [after_rename]
    _ = after (.rename owner :: operations ++ [.rename journal.owner]) journal := by
      rw [List.cons_append, after, after_append]
      rfl

end Journal

end ContractRules
