import ContractRules.Journal

/-! # Steps — what a reading does to its journal

    A reading is a program over a journal, but on a given block it is a straight
    line: which steps it takes, and what it builds, does not depend on what the
    journal holds already.  `Does` says so for one reading, and it composes
    (`does_bind`), so the steps of a long reading are put together from those of
    its parts.

    Everything else is read off the steps.  Whether a load succeeds is whether
    no step reports a problem (`conclude_eq_ok_iff`), and loads in a row succeed
    one by one (`Load.bind_eq_ok_iff`). -/

namespace ContractRules

variable {α β : Type}

namespace Journal

/-- One thing that is done to a journal. -/
inductive Step where
  | rename (owner : String)
  | report (problem : Problem)
  /-- The log is told of an identifier with two readings. -/
  | shadow (identifier : String)
  deriving Repr, DecidableEq

/-- Whether a step leaves a valid journal valid. -/
def Step.isHarmless : Step → Bool
  | rename _ | shadow _ => true
  | report _ => false

/-- The journal after one step. -/
def step (journal : Journal) : Step → Journal
  | .rename owner => journal.rename owner
  | .report problem => journal.report problem
  | .shadow identifier => journal.tell [.shadowed journal.owner identifier]

/-- The journal after some steps. -/
def perform (journal : Journal) (steps : List Step) : Journal :=
  steps.foldl step journal

@[simp] theorem perform_nil (journal : Journal) : journal.perform [] = journal :=
  rfl

/-- Steps in a row go on from the journal that the first ones leave. -/
theorem perform_append (journal : Journal) (first second : List Step) :
    journal.perform (first ++ second) = (journal.perform first).perform second :=
  List.foldl_append

theorem tell_nil (journal : Journal) : journal.tell [] = journal := by
  rw [tell, List.append_nil]

/-- A journal stays valid as long as nothing is reported. -/
theorem valid_perform (journal : Journal) (steps : List Step) :
    (journal.perform steps).valid =
      (journal.valid && steps.all Step.isHarmless) := by
  induction steps generalizing journal with
  | nil => exact (Bool.and_true _).symm
  | cons first rest ih =>
      have hstep : (journal.step first).valid =
          (journal.valid && first.isHarmless) := by
        cases first with
        | report _ => exact (Bool.and_false _).symm
        | _ => exact (Bool.and_true _).symm
      rw [show journal.perform (first :: rest) = (journal.step first).perform rest
        from rfl, ih, hstep, List.all_cons, Bool.and_assoc]

/-- A load succeeds with a value that was built while nothing went wrong. -/
theorem close_eq_ok_iff {journal : Journal} {value? : Option α} {value : α} :
    (journal.close value?).value = .ok value ↔
      value? = some value ∧ journal.valid = true := by
  cases value? with
  | none => simp [close]
  | some built =>
      cases hvalid : journal.valid <;> simp [close, outcome, hvalid, Except.map]

end Journal

/-! ## Fields -/

namespace Field

variable [Readable α]

/-- What a field is worth to the rest of a reading: what it reads as, or the
    placeholder of its type. -/
def worth (field : Field α) (block : Block) : α :=
  (field.read block).toOption.getD Readable.placeholder

/-- The steps of reading a field: a fault is reported. -/
def steps (field : Field α) (block : Block) : List Journal.Step :=
  match field.read block with
  | .ok _ => []
  | .error fault => [.report (.field fault)]

theorem worth_of_ok {field : Field α} {block : Block} {value : α}
    (h : field.read block = .ok value) : field.worth block = value := by
  rw [worth, h]
  rfl

theorem steps_of_ok {field : Field α} {block : Block} {value : α}
    (h : field.read block = .ok value) : field.steps block = [] := by
  rw [steps, h]

/-- A field is harmless and worth a value exactly when it reads as the value. -/
theorem read_eq_ok_iff {field : Field α} {block : Block} {value : α} :
    field.read block = .ok value ↔
      (field.steps block).all Journal.Step.isHarmless = true ∧
        field.worth block = value := by
  cases h : field.read block with
  | ok read =>
      rw [steps_of_ok h, worth_of_ok h]
      simp
  | error fault => simp [steps, h, Journal.Step.isHarmless]

end Field

/-! ## Readings -/

namespace Reading

/-- A reading builds a value and takes some steps, whatever the journal. -/
def Does (reading : Reading α) (value : α) (steps : List Journal.Step) : Prop :=
  ∀ journal, reading.run journal = (value, journal.perform steps)

theorem does_pure (value : α) : Does (pure value) value [] := fun _ => rfl

/-- Readings in a row take their steps in a row. -/
theorem does_bind {first : Reading α} {next : α → Reading β} {value : α}
    {result : β} {before after : List Journal.Step}
    (hfirst : Does first value before) (hnext : Does (next value) result after) :
    Does (first >>= next) result (before ++ after) := by
  intro journal
  -- the second reading starts from the journal that the first one leaves
  show (next (first.run journal).1).run (first.run journal).2 = _
  rw [hfirst journal, hnext, Journal.perform_append]

/-- A function of what was read takes no step of its own. -/
theorem Does.map {reading : Reading α} {value : α} {steps : List Journal.Step}
    (h : Does reading value steps) (f : α → β) :
    Does (f <$> reading) (f value) steps := by
  intro journal
  show (f (reading.run journal).1, (reading.run journal).2) = _
  rw [h journal]

/-- A reading that comes first only under a condition. -/
theorem does_when {condition : Prop} [Decidable condition]
    {first : Reading Unit} {next : Unit → Reading β} {result : β}
    {before after : List Journal.Step} (hfirst : Does first () before)
    (hnext : Does (next ()) result after) :
    Does (if condition then first >>= next else next ()) result
      ((if condition then before else []) ++ after) := by
  by_cases h : condition
  · rw [if_pos h, if_pos h]
    exact does_bind hfirst hnext
  · rw [if_neg h, if_neg h]
    exact hnext

theorem Does.congr {reading : Reading α} {value other : α}
    {steps same : List Journal.Step} (h : Does reading value steps)
    (hvalue : value = other) (hsteps : steps = same) : Does reading other same := by
  rw [← hvalue, ← hsteps]
  exact h

/-- Reading a field gives its worth and takes its steps. -/
theorem does_field [Readable α] (f : Field α) (block : Block) :
    Does (field f block) (f.worth block) (f.steps block) := by
  intro journal
  cases h : f.read block with
  | ok value => rw [run_field_of_ok h, Field.worth_of_ok h, Field.steps_of_ok h]; rfl
  | error fault => rw [run_field_of_error h, Field.worth, Field.steps, h]; rfl

/-- A field that reads takes no step of its own. -/
theorem does_bind_of_ok [Readable α] {f : Field α} {block : Block} {value : α}
    (h : f.read block = .ok value) {next : α → Reading β} {result : β}
    {after : List Journal.Step} (hnext : Does (next value) result after) :
    Does (field f block >>= next) result after := by
  rw [← Field.worth_of_ok h] at hnext
  rw [← List.nil_append after, ← Field.steps_of_ok h]
  exact does_bind (does_field f block) hnext

theorem does_rename (owner : String) :
    Does (rename owner) () [.rename owner] := fun _ => rfl

/-- Checking a condition reports its problem if it does not hold. -/
theorem does_require (holds : Bool) (problem : Problem) :
    Does (require holds problem) holds
      (if holds then [] else [.report problem]) := by
  cases holds <;> exact fun _ => rfl

/-- A load succeeds with a value exactly when its reading builds the value and
    takes harmless steps only. -/
theorem Does.conclude_eq_ok_iff {reading : Reading (Option α)}
    {value? : Option α} {steps : List Journal.Step}
    (h : Does reading value? steps) {owner : String} {value : α} :
    (reading.conclude owner).run.value = .ok value ↔
      value? = some value ∧ steps.all Journal.Step.isHarmless = true := by
  rw [show (reading.conclude owner).run =
    (reading.run (.start owner)).2.close (reading.run (.start owner)).1 from rfl,
    h, Journal.close_eq_ok_iff, Journal.valid_perform]
  exact Iff.rfl

end Reading

namespace Load

/-- Loads in a row succeed exactly when each of them does. -/
theorem bind_eq_ok_iff {first : Load α} {next : α → Load β} {value : β} :
    (first >>= next).run.value = .ok value ↔
      ∃ middle, first.run.value = .ok middle ∧
        (next middle).run.value = .ok value := by
  rw [ExceptT.run_bind, Logged.value_bind]
  cases first.run.value with
  | error failure => simp
  | ok middle => simp

/-- A function of a load succeeds exactly if the load does. -/
theorem map_eq_ok_iff {load : Load α} {f : α → β} {value : β} :
    (f <$> load).run.value = .ok value ↔
      ∃ loaded, load.run.value = .ok loaded ∧ f loaded = value := by
  rw [map_eq_pure_bind, bind_eq_ok_iff]
  refine exists_congr fun loaded => and_congr_right fun _ => ?_
  show Except.ok (f loaded) = Except.ok value ↔ _
  rw [Except.ok.injEq]

end Load

end ContractRules
