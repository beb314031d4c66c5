import ContractRules.Proofs.Requirement.Faults

/-! # Reports on requirements — every fault at once, and where that fails

    A definition is read in one go, so a load that fails hands over the faults of
    all fields, each of them once and in the order of reading
    (`field_diagnostics_loadAs`).  Saved state is read in two goes.  A flag of
    the base that is misspelt ends the first one, and then no fault of the second
    one is reported (`problems_restore`), although none of them is forgiven: saved
    state is restored only if nothing is wrong with its fields. -/

namespace ContractRules

open Reading

namespace Requirement

/-! ## Definitions -/

/-- A target without a problem is named. -/
theorem isSome_named?_of_loadSteps {registry : Registry} {block : Block}
    (h : Journal.problems (loadSteps registry block) = []) :
    (Target.named? registry block (block.first? "tag")).isSome = true := by
  rw [problems_loadSteps, List.append_eq_nil_iff, definitionFaults_eq_nil_iff] at h
  obtain ⟨⟨-, -, -, htarget, -, -⟩, -⟩ := h
  exact Target.isSome_named?_iff.mpr htarget

/-- What is reported on the way to a requirement is reported in the end: once the
    requirement is built, telling the log can not fail. -/
theorem problems_loadAs (registry : Registry) (kind : Kind) (block : Block) :
    (loadAs registry kind block).problems =
      Journal.problems (loadSteps registry block) := by
  have hreading := (does_reading registry kind block).problems_conclude_eq
    (fun h => Option.isSome_map.trans (isSome_named?_of_loadSteps h)) kind.name
  rw [← hreading, loadAs]
  cases hvalue : ((reading registry kind block).conclude kind.name).run.value with
  | ok requirement =>
      rw [Load.problems_bind_of_ok hvalue, Load.problems_of_ok hvalue]
      rfl
  | error failure => exact Load.problems_bind_of_error hvalue

/-- A definition loads by kind exactly if it is without fault and has its counts in
    order. -/
theorem exists_loadAs_eq_ok_iff {registry : Registry} {kind : Kind} {block : Block} :
    (∃ requirement, (loadAs registry kind block).run.value = .ok requirement) ↔
      definitionFaults registry block = [] ∧ CountsOrdered block := by
  simp only [loadAs_eq_ok_iff]
  rw [(does_reading registry kind block).exists_conclude_eq_ok_iff
    (fun h => Option.isSome_map.trans (isSome_named?_of_loadSteps h)) kind.name,
    problems_loadSteps, List.append_eq_nil_iff]
  refine and_congr_right ?_
  intro hfaults
  obtain ⟨-, -, -, -, hleast, hgreatest⟩ := definitionFaults_eq_nil_iff.mp hfaults
  rw [countsOrdered_iff hleast hgreatest, ite_eq_left_iff]
  refine ⟨fun h => ?_, fun h hnot => absurd h hnot⟩
  by_contra hnot
  cases h hnot

/-- **A failed load reports the faulty fields, once each and in order**, and a
    load succeeds exactly if no field is at fault and the counts are in order. -/
theorem field_diagnostics_loadAs (registry : Registry) (kind : Kind) (block : Block) :
    ((loadAs registry kind block).diagnostics.filter (·.field?.isSome)).map
        (·.problem) = definitionFaults registry block ∧
      ((∃ requirement, (loadAs registry kind block).run.value = .ok requirement) ↔
        definitionFaults registry block = [] ∧ CountsOrdered block) := by
  refine ⟨?_, exists_loadAs_eq_ok_iff⟩
  have hproblems := problems_loadAs registry kind block
  rw [problems_loadSteps] at hproblems
  have hfilter : (loadAs registry kind block).problems.filter (·.field?.isSome) =
      ((loadAs registry kind block).diagnostics.filter (·.field?.isSome)).map
        (·.problem) := List.filter_map
  -- crossed counts are about two fields, so they bear none
  have hcrossed : List.filter (·.field?.isSome)
      (if (Field.optional "minCount" 1).worth block ≤
          (Field.optional "maxCount" unbounded).worth block then []
        else [Problem.crossedCounts ((Field.optional "minCount" 1).worth block)
          ((Field.optional "maxCount" unbounded).worth block)]) = [] := by
    split <;> rfl
  rw [← hfilter, hproblems, List.filter_append, hcrossed, List.append_nil,
    List.filter_eq_self]
  intro fault hfault
  exact isSome_field?_of_mem_definitionFaults hfault

/-- The faults come in the order of the fields, not in that of the block. -/
example :
    definitionFaults .empty
        ⟨"REQUIREMENT", [("minCount", "abc"), ("checkOnActiveContract", "sometimes")]⟩ =
      [.field (.missing "type"),
       .field (.unreadable "checkOnActiveContract" "sometimes" .flag .notFlag),
       .field (.missing "contractType"),
       .field (.unreadable "minCount" "abc" .count .notCount)] := rfl

/-! ## Saved state -/

theorem isSome_named?_of_stateSteps {registry : Registry} {block : Block}
    (h : Journal.problems (stateSteps registry block) = []) :
    (Target.named? registry block (block.first? "tag")).isSome = true := by
  simp only [problems_stateSteps, stateFaults, reduceOption_cons,
    List.append_eq_nil_iff, Option.toList_eq_nil_iff] at h
  obtain ⟨-, -, -, htarget, -⟩ := h
  exact Target.isSome_named?_iff.mpr htarget

/-- Resuming a state reports the faults of that state. -/
theorem problems_resume (registry : Registry) (kind : Kind) (base : Base)
    (block : Block) :
    (resume registry kind base block).problems = stateFaults registry block := by
  rw [← problems_stateSteps]
  exact (does_stateReading registry kind base block).problems_conclude_eq
    (fun h => Option.isSome_map.trans (isSome_named?_of_stateSteps h)) base.name

/-- A state is resumed exactly if it is without fault. -/
theorem exists_resume_eq_ok_iff {registry : Registry} {kind : Kind} {base : Base}
    {block : Block} :
    (∃ requirement,
        (resume registry kind base block).run.value = .ok requirement) ↔
      stateFaults registry block = [] := by
  rw [← problems_stateSteps]
  exact (does_stateReading registry kind base block).exists_conclude_eq_ok_iff
    (fun h => Option.isSome_map.trans (isSome_named?_of_stateSteps h)) base.name

/-- A base whose flag is misspelt is all that restoring looks at. -/
theorem problems_restore_of_flagFault {registry : Registry} {block : Block}
    {name : String} {kind : Kind} {fault : Problem}
    (hname : block.first? "type" = some name) (hkind : Kind.ofName? name = some kind)
    (hfault : block.flagFault? "invertRequirement" = some fault) :
    (restore registry block).problems = [fault] := by
  have hsteps := problems_savedKindSteps hname hkind
  have hbase : ((savedKind block).conclude block.name).problems = [fault] := by
    rw [(does_savedKind block).problems_conclude, hsteps, hfault]
    exact (congrArg _ (if_neg fun h => List.cons_ne_nil _ _ h.2)).trans
      (List.append_nil _)
  -- with a problem to report the base fails, and the state is never looked at
  cases hvalue : ((savedKind block).conclude block.name).run.value with
  | ok found =>
      rw [Load.problems_of_ok hvalue] at hbase
      cases hbase
  | error failure =>
      rw [restore, Load.problems_bind_of_error hvalue]
      exact hbase

/-- A base without a fault leaves the rest of restoring to the state. -/
theorem conclude_savedKind_eq_ok {block : Block} {name : String} {kind : Kind}
    (hname : block.first? "type" = some name) (hkind : Kind.ofName? name = some kind)
    (hfault : block.flagFault? "invertRequirement" = none) :
    ((savedKind block).conclude block.name).run.value =
      .ok ({ Base.ofBlock block with checkedWhileActive := true }, kind) := by
  rw [(does_savedKind block).conclude_eq_ok_iff, Journal.all_isHarmless_iff,
    problems_savedKindSteps hname hkind, hfault]
  refine ⟨?_, rfl⟩
  have hbase : (Base.ofBlock block).kind = name := by
    rw [Base.ofBlock, Identity.ofBlock_eq hname]
  rw [hbase, hkind]
  rfl

/-- **Nothing is forgiven, but not everything is reported.**  Saved state of a
    known kind is restored exactly if no field is at fault.  If the flag of the
    base is well spelt then all faults are reported, and otherwise only its own
    is. -/
theorem problems_restore (registry : Registry) (block : Block)
    (hknown : ((block.first? "type").bind Kind.ofName?).isSome = true) :
    ((∃ requirement, (restore registry block).run.value = .ok requirement) ↔
        savedFaults registry block = []) ∧
      (block.flagFault? "invertRequirement" = none →
        (restore registry block).problems = savedFaults registry block) ∧
      ∀ fault, block.flagFault? "invertRequirement" = some fault →
        (restore registry block).problems = [fault] := by
  obtain ⟨kind, hbind⟩ := Option.isSome_iff_exists.mp hknown
  obtain ⟨name, hname, hkind⟩ := Option.bind_eq_some_iff.mp hbind
  rw [savedFaults]
  -- the flag decides whether reading gets beyond the base
  cases hfault : block.flagFault? "invertRequirement" with
  | some fault =>
      have hproblems : (restore registry block).problems = [fault] :=
        problems_restore_of_flagFault hname hkind hfault
      refine ⟨iff_of_false ?_ (List.cons_ne_nil _ _), nofun, ?_⟩
      · rintro ⟨requirement, hvalue⟩
        rw [Load.problems_of_ok hvalue] at hproblems
        cases hproblems
      · intro other hother
        rw [← Option.some.inj hother]
        exact hproblems
  | none =>
      have hbase := conclude_savedKind_eq_ok hname hkind hfault
      refine ⟨?_, fun _ => ?_, nofun⟩
      · rw [restore, Load.value_bind_of_ok hbase]
        exact exists_resume_eq_ok_iff
      · rw [restore, Load.problems_bind_of_ok hbase]
        exact problems_resume registry kind _ block

/-- Saved state of which little but the base is left. -/
def damaged : Block :=
  ⟨"REQUIREMENT", [("type", "AcceptContract"), ("invertRequirement", " TRUE"),
    ("maxCount", "-1"), ("maxCount", "3"), ("contractType", "Rescue")]⟩

/-- A saved state with three faults, all of them reported. -/
theorem problems_restore_damaged :
    ((damaged.first? "type").bind Kind.ofName?).isSome = true ∧
      damaged.flagFault? "invertRequirement" = none ∧
      (¬ ∃ requirement, (restore .empty damaged).run.value = .ok requirement) ∧
      (restore .empty damaged).problems =
        [.field (.missing "minCount"),
         .field (.unreadable "maxCount" "-1" .count .notCount),
         .unresolvedType "Rescue"] := by
  have hknown : ((damaged.first? "type").bind Kind.ofName?).isSome = true := by decide
  have hflag : damaged.flagFault? "invertRequirement" = none := by decide
  have hfaults : savedFaults .empty damaged =
      [.field (.missing "minCount"),
       .field (.unreadable "maxCount" "-1" .count .notCount),
       .unresolvedType "Rescue"] := rfl
  obtain ⟨hrestored, hall, -⟩ := problems_restore .empty damaged hknown
  rw [hfaults] at hrestored hall
  exact ⟨hknown, hflag, fun h => List.cons_ne_nil _ _ (hrestored.mp h), hall hflag⟩

/-- Saved state with a fault in its base and another one after it. -/
def halted : Block :=
  ⟨"REQUIREMENT", [("type", "CompleteContract"), ("invertRequirement", "maybe"),
    ("tag", "rescue"), ("maxCount", "2")]⟩

/-- The second fault goes unreported. -/
theorem exists_savedFault_not_reported :
    ((halted.first? "type").bind Kind.ofName?).isSome = true ∧
      ∃ fault ∈ savedFaults .empty halted, fault ∉ (restore .empty halted).problems :=
  ⟨by decide, .field (.missing "minCount"), by decide, by decide⟩

end Requirement

end ContractRules
