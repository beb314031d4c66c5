import ContractRules.Proofs.Journal.Report

/-! # Attribution — whose problems a failed load hands over

    A journal attributes a problem to whoever its owner is at the time, and the
    owner can change.  So the diagnostics of a failed load have only those owners
    that the journal has had, and `OwnedBy` says that these all satisfy some
    condition: that they are one and the same, or that they are not empty.

    One step keeps the condition as long as it does not rename the journal to
    somebody who fails it (`OwnedBy.step`), a run of steps does so as long as none
    of them does (`OwnedBy.perform`), and a load that fails hands over what its
    journal has come to (`Reading.Does.ownedBy_conclude`). -/

namespace ContractRules

variable {α β : Type} {IsOwner : String → Prop}

/-- A failure has something to tell, and all of it is attributed to owners of some
    kind. -/
structure LoadFailure.OwnedBy (IsOwner : String → Prop) (failure : LoadFailure) :
    Prop where
  owner : IsOwner failure.owner
  diagnostics : ∀ diagnostic ∈ failure.diagnostics, IsOwner diagnostic.owner
  ne_nil : failure.diagnostics ≠ []

theorem LoadFailure.OwnedBy.mono {IsOther : String → Prop} {failure : LoadFailure}
    (h : failure.OwnedBy IsOwner) (himp : ∀ owner, IsOwner owner → IsOther owner) :
    failure.OwnedBy IsOther :=
  ⟨himp _ h.owner, fun diagnostic hmem => himp _ (h.diagnostics diagnostic hmem), h.ne_nil⟩

namespace Journal

/-- The name that a step gives the journal. -/
def Step.name? : Step → Option String
  | rename owner => some owner
  | report _ | shadow _ => none

/-- The names that some steps give the journal, in order. -/
def names (steps : List Step) : List String := steps.filterMap Step.name?

theorem names_append (first second : List Step) :
    names (first ++ second) = names first ++ names second :=
  List.filterMap_append

/-- All that a journal attributes is attributed to owners of some kind, and it is
    invalid only because of what it attributes. -/
structure OwnedBy (IsOwner : String → Prop) (journal : Journal) : Prop where
  owner : IsOwner journal.owner
  diagnostics : ∀ diagnostic ∈ journal.diagnostics, IsOwner diagnostic.owner
  invalid : journal.valid = false → journal.diagnostics ≠ []

variable {journal : Journal}

theorem ownedBy_start {owner : String} (h : IsOwner owner) :
    (start owner).OwnedBy IsOwner :=
  ⟨h, nofun, nofun⟩

/-- What is reported belongs to the owner of the journal. -/
theorem OwnedBy.report (h : journal.OwnedBy IsOwner) (problem : Problem) :
    (journal.report problem).OwnedBy IsOwner := by
  refine ⟨h.owner, ?_, fun _ => List.append_ne_nil_of_right_ne_nil _ (List.cons_ne_nil _ _)⟩
  intro diagnostic hmem
  rcases List.mem_append.mp hmem with hmem | hmem
  · exact h.diagnostics diagnostic hmem
  · rw [List.mem_singleton.mp hmem]
    exact h.owner

/-- Only a new name can bring in an owner of another kind. -/
theorem OwnedBy.step (h : journal.OwnedBy IsOwner) {step : Step}
    (hname : ∀ name ∈ step.name?, IsOwner name) : (journal.step step).OwnedBy IsOwner := by
  cases step with
  | rename owner => exact ⟨hname owner rfl, h.diagnostics, h.invalid⟩
  | report problem => exact h.report problem
  | shadow identifier => exact ⟨h.owner, h.diagnostics, h.invalid⟩

/-- Steps that rename to owners only leave a journal theirs. -/
theorem OwnedBy.perform (h : journal.OwnedBy IsOwner) {steps : List Step}
    (hnames : ∀ name ∈ names steps, IsOwner name) :
    (journal.perform steps).OwnedBy IsOwner := by
  induction steps generalizing journal with
  | nil => exact h
  | cons first rest ih =>
      have hfirst : names [first] ++ names rest = names (first :: rest) :=
        (names_append [first] rest).symm
      rw [← hfirst] at hnames
      refine ih (h.step ?_) fun name hmem => hnames name (List.mem_append_right _ hmem)
      intro name hname
      refine hnames name (List.mem_append_left _ ?_)
      rw [names, List.mem_filterMap]
      exact ⟨first, List.mem_cons_self, hname⟩

/-- A journal that fails to close hands over what it attributes. -/
theorem OwnedBy.close (h : journal.OwnedBy IsOwner) {value? : Option α}
    {failure : LoadFailure} (hclose : (journal.close value?).value = .error failure) :
    failure.OwnedBy IsOwner := by
  cases value? with
  | none =>
      -- what was recorded, or else that the definition is incomplete
      have hlast : (if journal.valid then journal.report .incomplete else journal).failure =
          failure := Except.error.inj hclose
      rw [← hlast]
      cases hvalid : journal.valid with
      | true =>
          have hreport := h.report .incomplete
          exact ⟨hreport.owner, hreport.diagnostics, hreport.invalid rfl⟩
      | false => exact ⟨h.owner, h.diagnostics, h.invalid hvalid⟩
  | some value =>
      cases hvalid : journal.valid with
      | true =>
          rw [Journal.close, outcome, if_pos hvalid] at hclose
          cases hclose
      | false =>
          rw [Journal.close, outcome, hvalid, if_neg Bool.false_ne_true] at hclose
          rw [← Except.error.inj hclose]
          exact ⟨h.owner, h.diagnostics, h.invalid hvalid⟩

end Journal

/-! ## Steps that give no name -/

theorem Field.names_steps {α : Type} [Readable α] (field : Field α) (block : Block) :
    Journal.names (field.steps block) = [] := by
  rw [steps]
  cases field.read block <;> rfl

/-- Asking for a condition gives no name. -/
theorem Journal.names_report (holds : Prop) [Decidable holds] (problem : Problem) :
    names (if holds then [] else [.report problem]) = [] := by
  split <;> rfl

/-! ## Loads -/

/-- What a failed load hands over is attributed to the owners that its journal has
    from some point on, if nothing is attributed to anybody else before. -/
theorem Reading.Does.ownedBy_conclude {reading : Reading (Option α)} {value? : Option α}
    {before after : List Journal.Step} (h : Does reading value? (before ++ after))
    {owner : String} (hbefore : ((Journal.start owner).perform before).OwnedBy IsOwner)
    (hafter : ∀ name ∈ Journal.names after, IsOwner name) {failure : LoadFailure}
    (hfailure : (reading.conclude owner).run.value = .error failure) :
    failure.OwnedBy IsOwner := by
  rw [show (reading.conclude owner).run = (reading.run (.start owner)).2.close
    (reading.run (.start owner)).1 from rfl, h, Journal.perform_append] at hfailure
  exact (hbefore.perform hafter).close hfailure

namespace Load

/-- Of two loads in a row the first one fails, or it succeeds and the second one
    fails. -/
theorem bind_eq_error_cases {first : Load α} {next : α → Load β} {failure : LoadFailure}
    (h : (first >>= next).run.value = .error failure) :
    first.run.value = .error failure ∨
      ∃ value, first.run.value = .ok value ∧ (next value).run.value = .error failure := by
  cases hfirst : first.run.value with
  | error other =>
      rw [value_bind_of_error hfirst] at h
      exact .inl (congrArg Except.error (Except.error.inj h))
  | ok value =>
      rw [value_bind_of_ok hfirst] at h
      exact .inr ⟨value, rfl, h⟩

/-- A function of what was loaded fails only if the load does. -/
theorem map_eq_error {load : Load α} {f : α → β} {failure : LoadFailure}
    (h : (f <$> load).run.value = .error failure) : load.run.value = .error failure := by
  rw [map_eq_pure_bind] at h
  obtain hload | ⟨value, -, hpure⟩ := bind_eq_error_cases h
  · exact hload
  · cases hpure

end Load

end ContractRules
