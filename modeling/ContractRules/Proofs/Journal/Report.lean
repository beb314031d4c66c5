import ContractRules.Proofs.Journal.Steps

/-! # Reports — what a failed load hands over

    The steps of a reading tell more than whether it succeeds: the problems among
    them are what a failed load hands over, in order.  Only a load that has
    nothing to report and has built nothing adds to them that it is incomplete
    (`Reading.Does.problems_conclude`).

    Loads in a row report what the first failing one of them reports, since a
    failure keeps the later ones from running (`Load.problems_bind_of_error`). -/

namespace ContractRules

variable {α β : Type}

namespace Journal

/-- The problem that a step reports. -/
def Step.problem? : Step → Option Problem
  | rename _ | shadow _ => none
  | report problem => some problem

/-- The problems that some steps report, in order. -/
def problems (steps : List Step) : List Problem := steps.filterMap Step.problem?

theorem problems_append (first second : List Step) :
    problems (first ++ second) = problems first ++ problems second :=
  List.filterMap_append

/-- Steps are harmless exactly if they report no problem. -/
theorem all_isHarmless_iff {steps : List Step} :
    steps.all Step.isHarmless = true ↔ problems steps = [] := by
  rw [List.all_eq_true, problems, List.filterMap_eq_nil_iff]
  refine forall₂_congr ?_
  intro step _
  cases step with
  | report problem => exact iff_of_false nofun nofun
  | _ => exact iff_of_true rfl rfl

/-- Steps add their problems behind those of the journal. -/
theorem problems_perform (journal : Journal) (steps : List Step) :
    (journal.perform steps).diagnostics.map (·.problem) =
      journal.diagnostics.map (·.problem) ++ problems steps := by
  induction steps generalizing journal with
  | nil => exact (List.append_nil _).symm
  | cons first rest ih =>
      rw [show journal.perform (first :: rest) = (journal.step first).perform rest
        from rfl, ih]
      cases first with
      | report problem =>
          show (journal.diagnostics ++ [_]).map _ ++ _ = _ ++ (problem :: problems rest)
          rw [List.map_append, List.append_assoc]
          rfl
      | _ => rfl

end Journal

namespace Load

/-- The diagnostics of a load: none if it succeeds. -/
def diagnostics (load : Load α) : List Diagnostic :=
  match load.run.value with
  | .ok _ => []
  | .error failure => failure.diagnostics

/-- The problems that a load reports, whoever they are attributed to. -/
def problems (load : Load α) : List Problem := load.diagnostics.map (·.problem)

theorem problems_of_ok {load : Load α} {value : α} (h : load.run.value = .ok value) :
    load.problems = [] := by
  rw [problems, diagnostics, h]
  rfl

/-- After a load that succeeds the next one decides. -/
theorem value_bind_of_ok {first : Load α} {next : α → Load β} {value : α}
    (h : first.run.value = .ok value) :
    (first >>= next).run.value = (next value).run.value := by
  rw [ExceptT.run_bind, Logged.value_bind, h]

/-- A load that fails is the last one. -/
theorem value_bind_of_error {first : Load α} {next : α → Load β}
    {failure : LoadFailure} (h : first.run.value = .error failure) :
    (first >>= next).run.value = .error failure := by
  rw [ExceptT.run_bind, Logged.value_bind, h]
  rfl

/-- After a load that succeeds the next one reports. -/
theorem problems_bind_of_ok {first : Load α} {next : α → Load β} {value : α}
    (h : first.run.value = .ok value) :
    (first >>= next).problems = (next value).problems := by
  rw [problems, diagnostics, value_bind_of_ok h]
  rfl

/-- A load that fails has the last word. -/
theorem problems_bind_of_error {first : Load α} {next : α → Load β}
    {failure : LoadFailure} (h : first.run.value = .error failure) :
    (first >>= next).problems = first.problems := by
  rw [problems, diagnostics, value_bind_of_error h, problems, diagnostics, h]

/-- A function of what was loaded reports nothing of its own. -/
theorem problems_map (load : Load α) (f : α → β) :
    (f <$> load).problems = load.problems := by
  rw [map_eq_pure_bind]
  cases hvalue : load.run.value with
  | ok value =>
      rw [problems_bind_of_ok hvalue, problems_of_ok hvalue]
      exact problems_of_ok rfl
  | error failure => exact problems_bind_of_error hvalue

end Load

/-- What a load hands over: the problems of its steps, and that it is incomplete
    if it has none and has built nothing. -/
theorem Reading.Does.problems_conclude {reading : Reading (Option α)}
    {value? : Option α} {steps : List Journal.Step} (h : Does reading value? steps)
    {owner : String} :
    (reading.conclude owner).problems = Journal.problems steps ++
      if value? = none ∧ Journal.problems steps = [] then [.incomplete] else [] := by
  have hvalid := Journal.valid_perform (.start owner) steps
  have hdiagnostics := Journal.problems_perform (.start owner) steps
  rw [Load.problems, Load.diagnostics,
    show (reading.conclude owner).run = (reading.run (.start owner)).2.close
      (reading.run (.start owner)).1 from rfl, h]
  generalize (Journal.start owner).perform steps = journal at hvalid hdiagnostics
  -- the journal is valid exactly if nothing is reported, so the ways in which it
  -- can be closed are told apart by the problems alone
  by_cases hclean : Journal.problems steps = []
  · have hjournal : journal.valid = true := by
      rw [hvalid, Journal.all_isHarmless_iff.mpr hclean]
      rfl
    rw [hclean] at hdiagnostics ⊢
    cases value? with
    | none =>
        rw [Journal.close, hjournal, if_pos rfl, if_pos ⟨rfl, rfl⟩]
        show (journal.diagnostics ++ [_]).map _ = _
        rw [List.map_append, hdiagnostics]
        rfl
    | some value =>
        rw [Journal.close, Journal.outcome, if_pos hjournal]
        rfl
  · have hjournal : journal.valid = false := by
      rw [hvalid]
      exact Bool.eq_false_iff.mpr fun hsteps =>
        hclean (Journal.all_isHarmless_iff.mp hsteps)
    rw [if_neg fun hnone => hclean hnone.2, List.append_nil]
    cases value? with
    | none =>
        rw [Journal.close, hjournal, if_neg Bool.false_ne_true]
        exact hdiagnostics
    | some value =>
        rw [Journal.close, Journal.outcome, hjournal, if_neg Bool.false_ne_true]
        exact hdiagnostics

/-- A load that builds its value unless it has something to report hands over the
    problems of its steps and nothing else. -/
theorem Reading.Does.problems_conclude_eq {reading : Reading (Option α)}
    {value? : Option α} {steps : List Journal.Step} (h : Does reading value? steps)
    (hbuilt : Journal.problems steps = [] → value?.isSome = true) (owner : String) :
    (reading.conclude owner).problems = Journal.problems steps := by
  rw [h.problems_conclude]
  refine (congrArg _ (if_neg ?_)).trans (List.append_nil _)
  rintro ⟨hnone, hclean⟩
  have hsome := hbuilt hclean
  rw [hnone] at hsome
  cases hsome

/-- Such a load succeeds exactly if its steps report nothing. -/
theorem Reading.Does.exists_conclude_eq_ok_iff {reading : Reading (Option α)}
    {value? : Option α} {steps : List Journal.Step} (h : Does reading value? steps)
    (hbuilt : Journal.problems steps = [] → value?.isSome = true) (owner : String) :
    (∃ value, (reading.conclude owner).run.value = .ok value) ↔
      Journal.problems steps = [] := by
  simp only [h.conclude_eq_ok_iff, Journal.all_isHarmless_iff]
  constructor
  · rintro ⟨_, -, hclean⟩
    exact hclean
  · intro hclean
    obtain ⟨value, hvalue⟩ := Option.isSome_iff_exists.mp (hbuilt hclean)
    exact ⟨value, hvalue, hclean⟩

end ContractRules
