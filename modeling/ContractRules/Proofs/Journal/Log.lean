import ContractRules.Proofs.Journal.Report

/-! # Logs — what a load tells while it runs

    The events of a run are sorted here as the outcomes of a document are: errors,
    blocks passed over, identifiers with two readings, requirements loaded
    (`Log.ofEvents`).  Events that follow one another are sorted one after the
    other, so the log of a long run is put together from the logs of its parts.

    A journal tells the log of a diagnostic when it takes it down, under the owner
    of both.  Every step keeps that up (`Journal.Candid.step`), and so does every
    run of steps.  Hence what a load tells as errors is what it hands over in the
    end, however it ends (`Reading.Does.logs_conclude`). -/

namespace ContractRules

variable {α β : Type}

namespace Event

/-- The name of a block that is passed over. -/
def skipped? : Event → Option String
  | skipped block => some block
  | _ => none

/-- An identifier with two readings. -/
def shadowed? : Event → Option String
  | shadowed _ identifier => some identifier
  | _ => none

/-- The name of a requirement that is loaded, and its kind. -/
def requirement? : Event → Option (String × Requirement.Kind)
  | requirementLoaded name kind => some (name, kind)
  | _ => none

end Event

/-- How the log is told of a diagnostic: by its own owner. -/
def Diagnostic.told (diagnostic : Diagnostic) : Event :=
  .recorded diagnostic.owner diagnostic

/-- The events of a run, sorted. -/
structure Log where
  errors : List Event
  skipped : List String
  shadowed : List String
  requirements : List (String × Requirement.Kind)

namespace Log

/-- Sorts some events. -/
def ofEvents (events : List Event) : Log where
  errors := events.filter fun event => event.level = .error
  skipped := events.filterMap Event.skipped?
  shadowed := events.filterMap Event.shadowed?
  requirements := events.filterMap Event.requirement?

/-- A log and what is told after it. -/
def append (first second : Log) : Log where
  errors := first.errors ++ second.errors
  skipped := first.skipped ++ second.skipped
  shadowed := first.shadowed ++ second.shadowed
  requirements := first.requirements ++ second.requirements

/-- Events in a row are sorted one after the other. -/
theorem ofEvents_append (first second : List Event) :
    ofEvents (first ++ second) = (ofEvents first).append (ofEvents second) := by
  simp only [ofEvents, append, List.filter_append, List.filterMap_append]

end Log

/-! ## Journals -/

namespace Journal

/-- The identifier that a step tells to have two readings. -/
def Step.shadow? : Step → Option String
  | rename _ | report _ => none
  | shadow identifier => some identifier

/-- The identifiers that some steps tell to have two readings, in order. -/
def shadows (steps : List Step) : List String := steps.filterMap Step.shadow?

theorem shadows_append (first second : List Step) :
    shadows (first ++ second) = shadows first ++ shadows second :=
  List.filterMap_append

theorem shadows_cons (first : Step) (rest : List Step) :
    shadows (first :: rest) = first.shadow?.toList ++ shadows rest := by
  cases first <;> rfl

/-- A journal is candid if the errors of its log are its diagnostics, if it tells
    of nothing else but these identifiers, and if it is valid only as long as it
    has no diagnostics. -/
structure Candid (journal : Journal) (shadows : List String) : Prop where
  log : Log.ofEvents journal.events =
    ⟨journal.diagnostics.map Diagnostic.told, [], shadows, []⟩
  valid : journal.valid = true → journal.diagnostics = []

variable {journal : Journal} {shadows : List String}

theorem candid_start (owner : String) : (start owner).Candid [] :=
  ⟨rfl, fun _ => rfl⟩

/-- A step leaves a candid journal candid. -/
theorem Candid.step (h : journal.Candid shadows) (step : Step) :
    (journal.step step).Candid (shadows ++ step.shadow?.toList) := by
  have hlog := h.log
  cases step with
  | rename owner =>
      show (journal.rename owner).Candid (shadows ++ [])
      rw [List.append_nil]
      exact ⟨hlog, h.valid⟩
  | report problem =>
      show (journal.report problem).Candid (shadows ++ [])
      refine ⟨?_, nofun⟩
      -- the event and the diagnostic have the owner that the journal has now
      show Log.ofEvents (journal.events ++ [_]) =
        ⟨(journal.diagnostics ++ [_]).map Diagnostic.told, _, _, _⟩
      rw [Log.ofEvents_append, hlog, List.map_append]
      rfl
  | shadow identifier =>
      refine ⟨?_, h.valid⟩
      show Log.ofEvents (journal.events ++ [_]) = _
      rw [Log.ofEvents_append, hlog, Log.append, show (Log.ofEvents _).errors = [] from rfl,
        List.append_nil]
      rfl

/-- A run of steps leaves a candid journal candid. -/
theorem Candid.perform (h : journal.Candid shadows) (steps : List Step) :
    (journal.perform steps).Candid (shadows ++ Journal.shadows steps) := by
  induction steps generalizing journal shadows with
  | nil =>
      rw [Journal.shadows, List.filterMap_nil, List.append_nil]
      exact h
  | cons first rest ih =>
      rw [shadows_cons, ← List.append_assoc]
      exact ih (h.step first)

end Journal

/-! ## Loads -/

namespace Load

/-- What a load tells: its diagnostics as errors, and of these identifiers and
    requirements besides. -/
def Logs (load : Load α) (shadowed : List String)
    (requirements : List (String × Requirement.Kind)) : Prop :=
  Log.ofEvents load.run.events =
    ⟨load.diagnostics.map Diagnostic.told, [], shadowed, requirements⟩

variable {shadowed later : List String}
  {requirements others : List (String × Requirement.Kind)}

/-- After a load that succeeds the next one has its say. -/
theorem Logs.bind_of_ok {first : Load α} {next : α → Load β} {value : α}
    (h : first.run.value = .ok value) (hfirst : first.Logs shadowed requirements)
    (hnext : (next value).Logs later others) :
    (first >>= next).Logs (shadowed ++ later) (requirements ++ others) := by
  have hevents : (first >>= next).run.events =
      first.run.events ++ (next value).run.events := by
    rw [ExceptT.run_bind, Logged.events_bind, h]
  have hdiagnostics : first.diagnostics = [] := by
    rw [diagnostics, h]
  have hlast : (first >>= next).diagnostics = (next value).diagnostics := by
    rw [diagnostics, value_bind_of_ok h]
    rfl
  rw [Logs, hdiagnostics] at hfirst
  rw [Logs] at hnext
  rw [Logs, hevents, Log.ofEvents_append, hfirst, hnext, hlast]
  rfl

/-- A load that fails is the last one to tell anything. -/
theorem Logs.bind_of_error {first : Load α} {next : α → Load β}
    {failure : LoadFailure} (h : first.run.value = .error failure)
    (hfirst : first.Logs shadowed requirements) :
    (first >>= next).Logs shadowed requirements := by
  have hevents : (first >>= next).run.events = first.run.events := by
    rw [ExceptT.run_bind, Logged.events_bind, h]
    exact List.append_nil _
  have hdiagnostics : (first >>= next).diagnostics = first.diagnostics := by
    rw [diagnostics, diagnostics, value_bind_of_error h, h]
  rw [Logs] at hfirst
  rw [Logs, hevents, hdiagnostics, hfirst]

/-- What comes after a load may have nothing to add. -/
theorem Logs.bind {first : Load α} {next : α → Load β}
    (hfirst : first.Logs shadowed requirements)
    (hnext : ∀ value, (next value).Logs [] []) :
    (first >>= next).Logs shadowed requirements := by
  cases hvalue : first.run.value with
  | ok value =>
      have hlogs := Logs.bind_of_ok hvalue hfirst (hnext value)
      rwa [List.append_nil, List.append_nil] at hlogs
  | error failure => exact Logs.bind_of_error hvalue hfirst

/-- A function of what was loaded tells nothing. -/
theorem Logs.map {load : Load α} (h : load.Logs shadowed requirements) (f : α → β) :
    (f <$> load).Logs shadowed requirements := by
  rw [map_eq_pure_bind]
  exact h.bind fun _ => rfl

theorem logs_tell (name : String) (kind : Requirement.Kind) :
    (tell (.requirementLoaded name kind)).Logs [] [(name, kind)] := rfl

end Load

/-- What a candid journal tells until it is closed is what it then hands over. -/
theorem Journal.Candid.logs_close {journal : Journal} {shadows : List String}
    (h : journal.Candid shadows) {value? : Option α} {load : Load α}
    (hload : load.run = journal.close value?) : load.Logs shadows [] := by
  rw [Load.Logs, Load.diagnostics, hload]
  cases hvalid : journal.valid with
  | true =>
      cases value? with
      | none =>
          -- the last thing that is told is that nothing was built
          have hlast := (h.step (.report .incomplete)).log
          rw [show shadows ++ (Journal.Step.report .incomplete).shadow?.toList = shadows from
            List.append_nil _] at hlast
          rw [Journal.close, hvalid, if_pos rfl]
          exact hlast
      | some value =>
          have hlog := h.log
          rw [h.valid hvalid] at hlog
          rw [Journal.close, Journal.outcome, if_pos hvalid]
          exact hlog
  | false =>
      cases value? with
      | none =>
          rw [Journal.close, hvalid, if_neg Bool.false_ne_true]
          exact h.log
      | some value =>
          rw [Journal.close, Journal.outcome, hvalid, if_neg Bool.false_ne_true]
          exact h.log

/-- A load tells its diagnostics as errors, and of the identifiers that its steps
    find to have two readings. -/
theorem Reading.Does.logs_conclude {reading : Reading (Option α)}
    {value? : Option α} {steps : List Journal.Step} (h : Does reading value? steps)
    (owner : String) :
    (reading.conclude owner).Logs (Journal.shadows steps) [] := by
  have hrun : (reading.conclude owner).run =
      ((Journal.start owner).perform steps).close value? := by
    rw [show (reading.conclude owner).run = (reading.run (.start owner)).2.close
      (reading.run (.start owner)).1 from rfl, h]
  exact ((Journal.candid_start owner).perform steps).logs_close hrun

end ContractRules
