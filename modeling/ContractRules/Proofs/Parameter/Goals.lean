import ContractRules.Parameter.Goal
import ContractRules.Proofs.Field.Span
import ContractRules.Proofs.Parameter.Steps

/-! # Goals — from the definition of a parameter to what it generates

    The kinds of parameter share all but the duration: a vessel group may do without
    one, and a timer needs one that lasts (`Parameter.durationField`).  So a
    definition has four fields that can be at fault, whatever its kind, and a load
    reports the faults of these in one go (`problems_loadAs`).

    A block defines a parameter of its kind if none of them is at fault, which is
    said here by what the values spell (`Parameter.DefinedIn`).  A goal is described
    by the block as well, with no word on loading: from the texts that stand first,
    from all vessels, and from what the duration spells (`Goal.DescribedBy`). -/

namespace ContractRules

/-! ## Concluding what is always built -/

namespace Reading.Does

variable {α β : Type} {reading : Reading α} {built : α} {steps : List Journal.Step}
  {f : α → β} {owner : String}

/-- A reading that builds its value in any case succeeds exactly if it meets no
    problem. -/
theorem map_conclude_eq_ok_iff (h : Does reading built steps) {value : β} :
    (f <$> (some <$> reading).conclude owner).run.value = .ok value ↔
      f built = value ∧ Journal.problems steps = [] := by
  simp only [Load.map_eq_ok_iff, (h.map some).conclude_eq_ok_iff,
    Journal.all_isHarmless_iff, Option.some_inj]
  constructor
  · rintro ⟨_, ⟨rfl, hsteps⟩, hvalue⟩
    exact ⟨hvalue, hsteps⟩
  · rintro ⟨hvalue, hsteps⟩
    exact ⟨built, ⟨rfl, hsteps⟩, hvalue⟩

theorem problems_map_conclude (h : Does reading built steps) :
    (f <$> (some <$> reading).conclude owner).problems = Journal.problems steps := by
  rw [Load.problems_map]
  exact (h.map some).problems_conclude_eq (fun _ => rfl) owner

end Reading.Does

namespace Parameter

variable {block : Block} {kind : Kind}

/-! ## The duration -/

/-- The field that holds the duration of a parameter. -/
def durationField : Kind → Field Seconds
  | .vesselGroup => .optional "duration" .unlimited
  | .timer => .lasting "duration"

/-- What a block gives as the duration of a parameter. -/
def GivesDuration (block : Block) (duration : Seconds) : Kind → Prop
  | .vesselGroup => block.Gives SpellsSpan "duration" .unlimited duration
  | .timer => ∃ raw, block.first? "duration" = some raw ∧ SpellsLasting raw duration

/-- The fault of the duration of a parameter. -/
def durationFault? (block : Block) : Kind → Option Problem
  | .vesselGroup => block.spanFault? "duration"
  | .timer => block.lastingFault? "duration"

/-- The duration of a kind is read as the block gives it. -/
theorem read_durationField_eq_ok_iff {duration : Seconds} :
    (durationField kind).read block = .ok duration ↔
      GivesDuration block duration kind := by
  cases kind with
  | vesselGroup => exact speltBy_span.read_optional_eq_ok_iff
  | timer => exact Field.read_lasting_eq_ok_iff

theorem problems_durationField (block : Block) (kind : Kind) :
    Journal.problems ((durationField kind).steps block) =
      (durationFault? block kind).toList := by
  cases kind with
  | vesselGroup => exact Field.problems_optional_span block "duration" .unlimited
  | timer => exact Field.problems_lasting block "duration"

/-- The duration is without fault exactly if the block gives one. -/
theorem durationFault?_eq_none_iff :
    durationFault? block kind = none ↔
      ∃ duration, GivesDuration block duration kind := by
  simp only [← Option.toList_eq_nil_iff, ← problems_durationField,
    Field.problems_steps_eq_nil_iff, read_durationField_eq_ok_iff]

/-! ## Both kinds in one -/

/-- The steps of reading a parameter. -/
def steps (block : Block) (kind : Kind) : List Journal.Step :=
  Base.loadSteps block ++ (durationField kind).steps block

/-- The parameter of a kind that a block gives. -/
def ofBlock (block : Block) : Kind → Parameter
  | .vesselGroup => .vesselGroup (VesselGroup.ofBlock block)
  | .timer => .timer (Timer.ofBlock block)

/-- What is wrong with the fields of a definition: at most one fault for each of
    them, in the order in which they are read. -/
def definitionFaults (block : Block) (kind : Kind) : List Problem :=
  [block.flagFault? "optional",
   block.flagFault? "hidden",
   block.flagFault? "completeInSequence",
   durationFault? block kind].reduceOption

/-- A parameter reports the faults of its definition, in their order. -/
theorem problems_steps {name : String} (htype : block.first? "type" = some name) :
    Journal.problems (steps block kind) = definitionFaults block kind := by
  have hmissing : block.missing? Identity.kindField = none :=
    Block.missing?_eq_none_iff.mpr ⟨name, htype⟩
  simp only [steps, Base.loadSteps, Journal.problems_append, Identity.problems_steps,
    hmissing, Field.problems_optional_flag, problems_durationField, definitionFaults,
    reduceOption_cons, List.reduceOption_nil, Option.toList_none, List.nil_append,
    List.append_nil, List.append_assoc]

/-- A definition is without fault exactly if every field gives a value. -/
theorem definitionFaults_eq_nil_iff :
    definitionFaults block kind = [] ↔
      (∃ flag, block.Gives SpellsFlag "optional" false flag) ∧
        (∃ flag, block.Gives SpellsFlag "hidden" false flag) ∧
        (∃ flag, block.Gives SpellsFlag "completeInSequence" false flag) ∧
        ∃ duration, GivesDuration block duration kind := by
  simp only [definitionFaults, reduceOption_cons, List.reduceOption_nil,
    List.append_eq_nil_iff, Option.toList_eq_nil_iff, and_true, Block.flagFault?,
    Block.misspelt?_eq_none_iff false, durationFault?_eq_none_iff]

/-- A load as a given kind reports the problems of its steps. -/
theorem problems_loadAs (block : Block) (kind : Kind) :
    (loadAs block kind).problems = Journal.problems (steps block kind) := by
  cases kind with
  | vesselGroup => exact (VesselGroup.does_reading block).problems_map_conclude
  | timer => exact (Timer.does_reading block).problems_map_conclude

/-- A load as a given kind builds what the block gives, unless it has something to
    report. -/
theorem loadAs_eq_ok_iff {parameter : Parameter} :
    (loadAs block kind).run.value = .ok parameter ↔
      ofBlock block kind = parameter ∧ Journal.problems (steps block kind) = [] := by
  cases kind with
  | vesselGroup => exact (VesselGroup.does_reading block).map_conclude_eq_ok_iff
  | timer => exact (Timer.does_reading block).map_conclude_eq_ok_iff

/-! ## Definitions -/

/-- A block defines a parameter of a kind: its type is the kind, its flags are well
    spelt or absent, and it gives a duration. -/
structure DefinedIn (block : Block) (kind : Kind) : Prop where
  type : block.first? "type" = some kind.name
  optional : ∃ flag, block.Gives SpellsFlag "optional" false flag
  hidden : ∃ flag, block.Gives SpellsFlag "hidden" false flag
  inSequence : ∃ flag, block.Gives SpellsFlag "completeInSequence" false flag
  duration : ∃ duration, GivesDuration block duration kind

/-- The kind is known exactly if the block has its name. -/
theorem conclude_knownKind_eq_ok_iff :
    ((knownKind block).conclude block.name).run.value = .ok kind ↔
      block.first? "type" = some kind.name := by
  refine Identity.conclude_knownKind_eq_ok_iff.trans ?_
  rw [Identity.known?, Option.bind_eq_some_iff]
  constructor
  · rintro ⟨name, hfirst, hname⟩
    rwa [← Identity.eq_name_of_find? hname]
  · intro hfirst
    exact ⟨kind.name, hfirst, Kind.ofName?_name kind⟩

/-- A load builds what the block gives, if the block defines it. -/
theorem load_eq_ok_iff {parameter : Parameter} :
    (load block).run.value = .ok parameter ↔
      ∃ kind, DefinedIn block kind ∧ ofBlock block kind = parameter := by
  rw [load, Load.bind_eq_ok_iff]
  refine exists_congr fun kind => ?_
  rw [conclude_knownKind_eq_ok_iff, loadAs_eq_ok_iff]
  constructor
  · -- the type is there once the kind is known, so only the four fields are left
    rintro ⟨htype, hvalue, hsteps⟩
    rw [problems_steps htype, definitionFaults_eq_nil_iff] at hsteps
    obtain ⟨hoptional, hhidden, hinSequence, hduration⟩ := hsteps
    exact ⟨⟨htype, hoptional, hhidden, hinSequence, hduration⟩, hvalue⟩
  · rintro ⟨h, hvalue⟩
    refine ⟨h.type, hvalue, ?_⟩
    rw [problems_steps h.type, definitionFaults_eq_nil_iff]
    exact ⟨h.optional, h.hidden, h.inSequence, h.duration⟩

/-- Loading a parameter of a known kind reports the faults of its definition. -/
theorem problems_load (htype : block.first? "type" = some kind.name) :
    (load block).problems = definitionFaults block kind := by
  rw [load, Load.problems_bind_of_ok (conclude_knownKind_eq_ok_iff.mpr htype),
    problems_loadAs, problems_steps htype]

/-- What a defined duration is worth is what the block gives. -/
theorem DefinedIn.givesDuration (h : DefinedIn block kind) :
    GivesDuration block ((durationField kind).worth block) kind := by
  obtain ⟨duration, hduration⟩ := h.duration
  rwa [Field.worth_of_ok (read_durationField_eq_ok_iff.mpr hduration)]

end Parameter

/-! ## Goals -/

/-- What a block says of the goals that its parameter generates for a contract. -/
inductive Goal.DescribedBy (contract : String) (block : Block) : Goal → Prop where
  | vesselGroup {duration : Seconds}
      (htype : block.first? "type" = some "VesselParameterGroup")
      (hduration : block.Gives SpellsSpan "duration" .unlimited duration) :
      DescribedBy contract block
        (.vesselGroup contract (block.first? "title") (block.first? "define")
          (block.all "vessel") duration.value)
  | timer {raw : String} {duration : Seconds}
      (htype : block.first? "type" = some "Duration")
      (hfirst : block.first? "duration" = some raw)
      (hduration : SpellsLasting raw duration) :
      DescribedBy contract block
        (.timer contract (block.first? "title") duration.value
          (block.first? "preWaitText") (block.first? "waitingText")
          (block.first? "completionText"))

namespace Parameter

variable {block : Block} {kind : Kind}

/-- A block without fault describes the goal that its parameter generates. -/
theorem DefinedIn.describedBy (h : DefinedIn block kind) (contract : String) :
    ((ofBlock block kind).generate contract).DescribedBy contract block := by
  have hduration := h.givesDuration
  cases kind with
  | vesselGroup => exact .vesselGroup h.type hduration
  | timer =>
      obtain ⟨raw, hfirst, hlasting⟩ := hduration
      exact .timer h.type hfirst hlasting

end Parameter

/-- A block describes one goal for a contract at most. -/
theorem Goal.DescribedBy.unique {contract : String} {block : Block}
    {goal other : Goal} (h : goal.DescribedBy contract block)
    (hother : other.DescribedBy contract block) : other = goal := by
  cases h with
  | vesselGroup htype hduration =>
      -- all but the duration is looked up, and a type names one kind only
      cases hother with
      | vesselGroup _ hsame => rw [speltBy_span.gives_unique hsame hduration]
      | timer hdiffers =>
          rw [htype] at hdiffers
          exact absurd (Option.some.inj hdiffers) (by decide)
  | timer htype hfirst hlasting =>
      cases hother with
      | vesselGroup hdiffers =>
          rw [htype] at hdiffers
          exact absurd (Option.some.inj hdiffers) (by decide)
      | timer _ hsame hduration =>
          obtain rfl := Option.some.inj (hsame.symm.trans hfirst)
          rw [hduration.unique hlasting]

/-- **A parameter generates what its definition says.**  A load succeeds exactly if
    the type is one of the two, the flags are well spelt or absent, and there is a
    duration as the kind asks for it.  Short of that a known type gets all faults
    reported, in order.  And the goals for a contract are the ones that the block
    describes, and no others. -/
theorem describedBy_iff_of_load (block : Block) :
    ((∃ parameter, (Parameter.load block).run.value = .ok parameter) ↔
        ∃ kind, Parameter.DefinedIn block kind) ∧
      (∀ kind : Parameter.Kind, block.first? "type" = some kind.name →
        (Parameter.load block).problems = Parameter.definitionFaults block kind) ∧
      ∀ parameter, (Parameter.load block).run.value = .ok parameter →
        ∀ contract goal, Goal.DescribedBy contract block goal ↔
          goal = parameter.generate contract := by
  refine ⟨?_, fun kind htype => Parameter.problems_load htype, ?_⟩
  · simp only [Parameter.load_eq_ok_iff]
    constructor
    · rintro ⟨_, kind, hdefined, -⟩
      exact ⟨kind, hdefined⟩
    · rintro ⟨kind, hdefined⟩
      exact ⟨_, kind, hdefined, rfl⟩
  · intro parameter hload contract goal
    obtain ⟨kind, hdefined, rfl⟩ := Parameter.load_eq_ok_iff.mp hload
    have hdescribed := hdefined.describedBy contract
    constructor
    · intro hgoal
      exact hdescribed.unique hgoal
    · rintro rfl
      exact hdescribed

/-- A timer whose first duration is zero, with a flag that is misspelt. -/
def hasty : Block :=
  ⟨"PARAMETER", [("duration", "-0"), ("type", "Duration"), ("hidden", "perhaps"),
    ("duration", "60")]⟩

/-- A group of three vessels, two of them the same. -/
def trio : Block :=
  ⟨"PARAMETER", [("vessel", "B"), ("type", "VesselParameterGroup"),
    ("title", "first"), ("vessel", "A"), ("title", "second"), ("vessel", "B"),
    ("duration", " 5 ")]⟩

/-- What the group is loaded as. -/
def trioGroup : Parameter :=
  .vesselGroup
    ⟨⟨"VesselParameterGroup", "VesselParameterGroup", some "first", false, false,
      false⟩, ⟨⟨0x4014000000000000⟩⟩, none, ["B", "A", "B"]⟩

/-- A timer with two faults, and a group of three vessels that names one twice. -/
theorem describedBy_iff_of_load_trio :
    hasty.first? "type" = some Parameter.Kind.timer.name ∧
      (Parameter.load hasty).problems =
        [.field (.unreadable "hidden" "perhaps" .flag .notFlag),
         .field (.unreadable "duration" "-0" .span
          (.custom "duration must be greater than zero"))] ∧
      (Parameter.load trio).run.value = .ok trioGroup ∧
      ∀ contract goal, Goal.DescribedBy contract trio goal ↔
        goal = .vesselGroup contract (some "first") none ["B", "A", "B"]
          ⟨0x4014000000000000⟩ := by
  have htype : hasty.first? "type" = some Parameter.Kind.timer.name := rfl
  have hfaults : Parameter.definitionFaults hasty .timer =
      [.field (.unreadable "hidden" "perhaps" .flag .notFlag),
       .field (.unreadable "duration" "-0" .span
        (.custom "duration must be greater than zero"))] := rfl
  have hload : (Parameter.load trio).run.value = .ok trioGroup := rfl
  obtain ⟨-, hproblems, -⟩ := describedBy_iff_of_load hasty
  obtain ⟨-, -, hgoals⟩ := describedBy_iff_of_load trio
  exact ⟨htype, (hproblems .timer htype).trans hfaults, hload, hgoals trioGroup hload⟩

end ContractRules
