import ContractRules.Proofs.Document.Blocks
import ContractRules.Proofs.Parameter.Steps
import ContractRules.Proofs.Requirement.Log

/-! # Logs of documents — the log and the contents agree

    Whoever reads the log of a document learns what whoever holds its contents
    learns: the diagnostics, the blocks passed over, the requirements.  The log
    has one thing more, the contract types with two readings, and those can be
    told from the blocks alone (`Block.shadowedType?`).

    Each block tells its own part (`Outcome.log_ofBlock`), the parts are put
    together as the contents are (`Contents.log_append`), and the last event
    counts them.  What has been told is then looked for among the entries of the log
    as anyone would who reads it: by level and wording. -/

namespace ContractRules

/-! ## Parameters -/

section Parameters

open Reading

/-- The base of a parameter names no contract type. -/
theorem Parameter.Base.shadows_loadSteps (block : Block) :
    Journal.shadows (loadSteps block) = [] := by
  rw [loadSteps]
  simp only [Journal.shadows_append, Identity.shadows_steps, Field.shadows_steps,
    List.append_nil]

/-- A vessel group tells of its diagnostics and of nothing else. -/
theorem VesselGroup.logs_load (block : Block) : (load block).Logs [] [] := by
  have hlogs := ((does_reading block).map some).logs_conclude
    Parameter.Kind.vesselGroup.name
  rwa [steps, Journal.shadows_append, Parameter.Base.shadows_loadSteps,
    Field.shadows_steps] at hlogs

theorem Timer.logs_load (block : Block) : (load block).Logs [] [] := by
  have hlogs := ((does_reading block).map some).logs_conclude
    Parameter.Kind.timer.name
  rwa [steps, Journal.shadows_append, Parameter.Base.shadows_loadSteps,
    Field.shadows_steps] at hlogs

/-- A parameter tells of its diagnostics and of nothing else. -/
theorem Parameter.logs_load (block : Block) : (load block).Logs [] [] := by
  have hkind := Identity.logs_knownKind Kind.ofName? .unknownParameter block block.name
  refine hkind.bind ?_
  intro kind
  cases kind with
  | vesselGroup => exact (VesselGroup.logs_load block).map vesselGroup
  | timer => exact (Timer.logs_load block).map timer

end Parameters

/-! ## Blocks -/

/-- The contract type of a requirement block, if it has two readings and is looked
    at. -/
def Block.shadowedType? (registry : Registry) (block : Block) : Option String :=
  if block.name = "REQUIREMENT" then Requirement.shadowedType? registry block
  else none

namespace Contents

/-- The requirements of a document, as a log is told of them. -/
def announced (contents : Contents) : List (String × Requirement.Kind) :=
  contents.requirements.map fun requirement => (requirement.base.name, requirement.kind)

/-- The log that goes with some contents and some contract types with two
    readings. -/
def log (contents : Contents) (shadowed : List String) : Log where
  errors := contents.diagnostics.map Diagnostic.told
  skipped := contents.skipped
  shadowed := shadowed
  requirements := contents.announced

theorem log_append (first second : Contents) (shadowed later : List String) :
    (first.append second).log (shadowed ++ later) =
      (first.log shadowed).append (second.log later) := by
  simp only [log, Log.append, append, diagnostics, announced, requirements,
    List.flatMap_append, List.filterMap_append, List.map_append]

end Contents

namespace Outcome

variable {α : Type} {definition : α → Definition} {load : Load α}

/-- A block tells what its load tells. -/
theorem events_ofLoad : (ofLoad definition load).events = load.run.events := by
  rw [ofLoad, Logged.events_bind]
  cases load.run.value <;> exact List.append_nil _

/-- A load that tells of the requirements it comes to tells of all it comes to. -/
theorem log_ofLoad {shadowed : List String}
    (h : load.Logs shadowed
      (Contents.ofOutcomes [(ofLoad definition load).value]).announced) :
    Log.ofEvents (ofLoad definition load).events =
      (Contents.ofOutcomes [(ofLoad definition load).value]).log shadowed := by
  have hdiagnostics : load.diagnostics =
      (Contents.ofOutcomes [(ofLoad definition load).value]).diagnostics := by
    rw [Load.diagnostics, value_ofLoad]
    cases load.run.value with
    | ok value => rfl
    | error failure => exact (List.append_nil _).symm
  have hskipped : (Contents.ofOutcomes [(ofLoad definition load).value]).skipped = [] := by
    rw [value_ofLoad]
    cases load.run.value <;> rfl
  rw [Load.Logs, hdiagnostics] at h
  rw [events_ofLoad, h, Contents.log, hskipped]

/-- A block tells what it comes to. -/
theorem log_ofBlock (registry : Registry) (block : Block) :
    Log.ofEvents (ofBlock registry block).events =
      (Contents.ofOutcomes [(ofBlock registry block).value]).log
        (block.shadowedType? registry).toList := by
  by_cases hrequirement : block.name = "REQUIREMENT"
  · have hannounced : Requirement.announced (Requirement.load registry block) =
        (Contents.ofOutcomes [(ofLoad .requirement
          (Requirement.load registry block)).value]).announced := by
      rw [Requirement.announced, value_ofLoad]
      cases (Requirement.load registry block).run.value <;> rfl
    rw [ofBlock_requirement hrequirement, Block.shadowedType?, if_pos hrequirement]
    refine log_ofLoad ?_
    rw [← hannounced]
    exact Requirement.logs_load registry block
  rw [Block.shadowedType?, if_neg hrequirement]
  by_cases hparameter : block.name = "PARAMETER"
  · have hannounced : (Contents.ofOutcomes [(ofLoad .parameter
        (Parameter.load block)).value]).announced = [] := by
      rw [value_ofLoad]
      cases (Parameter.load block).run.value <;> rfl
    rw [ofBlock_parameter hparameter]
    refine log_ofLoad ?_
    rw [hannounced]
    exact Parameter.logs_load block
  · rw [ofBlock_other hrequirement hparameter]
    rfl

end Outcome

/-! ## Entries -/

namespace Log

/-- Entries of one kind are those of the events that the kind picks out, seen in one
    way or another. -/
theorem map_filter_entries {α β : Type} {keep : Entry → Bool} {view : Entry → β}
    {pick? : Event → Option α} {shown : α → β}
    (hkeep : ∀ event, keep event.entry = (pick? event).isSome)
    (hview : ∀ event value, pick? event = some value → view event.entry = shown value)
    (events : List Event) :
    ((events.map Event.entry).filter keep).map view =
      (events.filterMap pick?).map shown := by
  induction events with
  | nil => rfl
  | cons event rest ih =>
      have hfirst := hkeep event
      rw [List.map_cons, List.filter_cons, hfirst, List.filterMap_cons]
      cases hpick : pick? event with
      | none => exact ih
      | some value =>
          rw [Option.isSome_some, if_pos rfl, List.map_cons, List.map_cons, ih,
            hview event value hpick]

/-- The entries of errors, as they were told. -/
theorem filter_entries_error (events : List Event) :
    ((events.map Event.entry).filter fun entry => entry.level = .error) =
      (ofEvents events).errors.map Event.entry :=
  List.filter_map

/-- The entries on blocks passed over, by their names. -/
theorem filter_entries_skipped (events : List Event) :
    ((events.map Event.entry).filter fun entry =>
        entry.level = .warn ∧ entry.message = "skipping unknown block") =
      (ofEvents events).skipped.map fun name =>
        ⟨.warn, "skipping unknown block", [("block", name)]⟩ := by
  rw [← List.map_id' (List.filter _ _)]
  refine map_filter_entries ?_ ?_ events
  · intro event
    cases event <;> rfl
  · intro event name hpick
    cases event <;> cases hpick
    rfl

/-- The entries on contract types with two readings, by what was read in two ways. -/
theorem filter_entries_shadowed (events : List Event) :
    ((events.map Event.entry).filter fun entry => entry.level = .warn ∧ entry.message =
        "contractType matches a declarative type prefix and a compiled type; " ++
          "using the declarative type").map (fun entry => entry.fields.lookup "identifier") =
      (ofEvents events).shadowed.map some := by
  refine map_filter_entries ?_ ?_ events
  · intro event
    cases event <;> rfl
  · intro event identifier hpick
    cases event <;> cases hpick
    rfl

/-- The entries on loaded requirements, by their names and kinds. -/
theorem filter_entries_requirements (events : List Event) :
    ((events.map Event.entry).filter fun entry =>
        entry.level = .debug ∧ entry.message = "loaded contract check") =
      (ofEvents events).requirements.map fun requirement => ⟨.debug, "loaded contract check",
        [("name", requirement.1), ("kind", requirement.2.name)]⟩ := by
  rw [← List.map_id' (List.filter _ _)]
  refine map_filter_entries ?_ ?_ events
  · intro event
    cases event <;> rfl
  · intro event requirement hpick
    cases event <;> cases hpick
    rfl

end Log

/-! ## Documents -/

namespace Contents

/-- Blocks in a row tell what they come to, one after the other. -/
theorem log_ofOutcomes (registry : Registry) (blocks : List Block) :
    Log.ofEvents (blocks.flatMap fun block => (Outcome.ofBlock registry block).events) =
      (ofOutcomes (blocks.map fun block => (Outcome.ofBlock registry block).value)).log
        (blocks.filterMap (Block.shadowedType? registry)) := by
  induction blocks with
  | nil => rfl
  | cons first rest ih =>
      have hshadowed : (first :: rest).filterMap (Block.shadowedType? registry) =
          (first.shadowedType? registry).toList ++
            rest.filterMap (Block.shadowedType? registry) := by
        rw [List.filterMap_cons]
        cases first.shadowedType? registry <;> rfl
      rw [List.flatMap_cons, Log.ofEvents_append, Outcome.log_ofBlock, ih, hshadowed,
        ← log_append, ← ofOutcomes_append]
      rfl

/-- A document tells what its blocks tell, and counts them in the end. -/
theorem events_ofBlocks (registry : Registry) (blocks : List Block) :
    (ofBlocks registry blocks).events =
      (blocks.flatMap fun block => (Outcome.ofBlock registry block).events) ++
        [.documentLoaded (ofBlocks registry blocks).value.definitions.length
          (ofBlocks registry blocks).value.failures.length
          (ofBlocks registry blocks).value.skipped.length] := by
  rw [ofBlocks, Logged.events_bind, Logged.all, List.flatMap_map]
  rfl

/-- The entries of some events tell of some contents and some contract types with two
    readings: what is told as an error, as a warning of either kind and of loaded
    requirements is what there is to tell, in order, and the contents are counted in
    the end. -/
structure ToldBy (contents : Contents) (shadowed : List String) (entries : List Entry) :
    Prop where
  errors : (entries.filter fun entry => entry.level = .error) =
    contents.diagnostics.map fun diagnostic =>
      ⟨.error, diagnostic.text, [("owner", diagnostic.owner)]⟩
  skipped : (entries.filter fun entry =>
      entry.level = .warn ∧ entry.message = "skipping unknown block") =
    contents.skipped.map fun name => ⟨.warn, "skipping unknown block", [("block", name)]⟩
  shadowed : ((entries.filter fun entry => entry.level = .warn ∧ entry.message =
      "contractType matches a declarative type prefix and a compiled type; " ++
        "using the declarative type").map fun entry => entry.fields.lookup "identifier") =
    shadowed.map some
  requirements : (entries.filter fun entry =>
      entry.level = .debug ∧ entry.message = "loaded contract check") =
    contents.requirements.map fun requirement => ⟨.debug, "loaded contract check",
      [("name", requirement.base.name), ("kind", requirement.kind.name)]⟩
  last : entries.getLast? = some ⟨.debug, "document loaded",
    [("loaded", toString contents.definitions.length),
     ("failed", toString contents.failures.length),
     ("skipped", toString contents.skipped.length)]⟩

/-- **The log of a document tells of its contents.**  Its errors are the diagnostics,
    each under its owner; its warnings are the blocks passed over, and once each the
    contract types with two readings that a requirement block has it look at, whether
    or not the block loads; it tells of the requirements that were loaded, and it
    counts what became of the blocks in the end. -/
theorem toldBy_ofBlocks (registry : Registry) (blocks : List Block) :
    (ofBlocks registry blocks).value.ToldBy
      (blocks.filterMap (Block.shadowedType? registry))
      ((ofBlocks registry blocks).events.map Event.entry) := by
  have hlog : Log.ofEvents (ofBlocks registry blocks).events =
      (ofBlocks registry blocks).value.log
        (blocks.filterMap (Block.shadowedType? registry)) := by
    -- the count at the end is none of the things that are sorted
    have hcount (loaded failed skipped : Nat) :
        Log.ofEvents [.documentLoaded loaded failed skipped] = ⟨[], [], [], []⟩ := rfl
    rw [events_ofBlocks, Log.ofEvents_append, log_ofOutcomes, ← value_ofBlocks, hcount]
    simp only [Log.append, log, List.append_nil]
  constructor
  case errors =>
    rw [Log.filter_entries_error, hlog]
    exact List.map_map
  case skipped =>
    rw [Log.filter_entries_skipped, hlog]
    rfl
  case shadowed =>
    rw [Log.filter_entries_shadowed, hlog]
    rfl
  case requirements =>
    rw [Log.filter_entries_requirements, hlog]
    exact List.map_map
  case last =>
    rw [events_ofBlocks, List.map_append]
    exact List.getLast?_concat

end Contents

end ContractRules
