import ContractRules.Command.Report
import ContractRules.Proofs.Document.Blocks
import ContractRules.Proofs.Parameter.Steps
import ContractRules.Proofs.Requirement.Attribution

/-! # Attribution in documents — the report loses nothing of a failure

    Both families of definitions fail in the same way: under the one name that
    their block goes by (`Outcome.isOf_ofBlock`).  Since a block that is loaded has
    a name, and so has every kind, that name is not empty.

    The report on a document shows a failure under its owner and leaves the owner
    out of the lines below.  As every diagnostic of a failure has that owner,
    putting it in front again gives back all texts (`Command.map_text_eq_map_describe`).
    What is written of all failures is a section of its own
    (`Command.exists_renderLines_reportLines_eq`). -/

namespace ContractRules

/-! ## Parameters -/

namespace Parameter

variable {block : Block} {failure : LoadFailure}

/-- The fields that a definition has behind its identity give no name. -/
theorem Base.exists_loadSteps_append_eq (block : Block) {after : List Journal.Step}
    (hafter : Journal.names after = []) :
    ∃ rest, loadSteps block ++ after = Identity.steps block ++ rest ∧
      Journal.names rest = [] := by
  rw [loadSteps, List.append_assoc]
  refine ⟨_, rfl, ?_⟩
  simp only [Journal.names_append, Field.names_steps, hafter, List.append_nil]

/-- Whatever a kind of parameter reads behind the base, it fails under one name. -/
theorem isOf_conclude {α : Type} {reading : Reading α} {value : α}
    {after : List Journal.Step}
    (h : Reading.Does reading value (Base.loadSteps block ++ after))
    (hafter : Journal.names after = []) {kinds : List String} {kind : String}
    (hkind : block.first? "type" = some kind) (hmem : kind ∈ kinds)
    (hfailure : ((some <$> reading).conclude kind).run.value = .error failure) :
    failure.IsOf kinds block := by
  obtain ⟨rest, hsteps, hrest⟩ := Base.exists_loadSteps_append_eq block hafter
  rw [hsteps] at h
  exact Identity.isOf_conclude (h.map some) hrest hkind hmem hfailure

/-- **A parameter that fails does so under one name.** -/
theorem isOf_load (h : (load block).run.value = .error failure) :
    failure.IsOf ["VesselParameterGroup", "Duration"] block := by
  refine Identity.isOf_of_load (fun _ => Identity.isSome_find?_iff) ?_ h
  intro name kind hfirst hmem hname hload
  obtain rfl : name = kind.name := Identity.eq_name_of_find? hname
  cases kind with
  | vesselGroup =>
      exact isOf_conclude (VesselGroup.does_reading block) (Field.names_steps _ _)
        hfirst hmem (Load.map_eq_error hload)
  | timer =>
      exact isOf_conclude (Timer.does_reading block) (Field.names_steps _ _)
        hfirst hmem (Load.map_eq_error hload)

end Parameter

/-! ## Blocks -/

/-- The kinds of definition that a block can hold, as told by its name. -/
def Block.kinds (block : Block) : List String :=
  if block.name = "REQUIREMENT" then ["CompleteContract", "AcceptContract"]
  else if block.name = "PARAMETER" then ["VesselParameterGroup", "Duration"]
  else []

/-- Every kind of definition has a name. -/
theorem Block.empty_not_mem_kinds (block : Block) : "" ∉ block.kinds := by
  rw [kinds]
  split
  · decide
  split
  · decide
  · exact List.not_mem_nil

namespace Outcome

/-- A block fails exactly as its load does. -/
theorem ofLoad_eq_failed_iff {α : Type} {definition : α → Definition}
    {load : Load α} {failure : LoadFailure} :
    (ofLoad definition load).value = failed failure ↔
      load.run.value = .error failure := by
  rw [value_ofLoad]
  cases load.run.value with
  | ok value => exact iff_of_false nofun nofun
  | error other =>
      exact ⟨fun h => congrArg _ (failed.inj h), fun h => congrArg _ (Except.error.inj h)⟩

theorem failure?_eq_some_iff {outcome : Outcome} {failure : LoadFailure} :
    outcome.failure? = some failure ↔ outcome = failed failure := by
  cases outcome with
  | failed other =>
      exact ⟨fun h => congrArg _ (Option.some.inj h), fun h => congrArg _ (failed.inj h)⟩
  | loaded definition => exact iff_of_false nofun nofun
  | skipped name => exact iff_of_false nofun nofun

variable {registry : Registry} {block : Block} {failure : LoadFailure}

/-- A block that fails has a name. -/
theorem name_ne_empty_of_failed (h : (ofBlock registry block).value = failed failure) :
    block.name ≠ "" := by
  intro hempty
  rw [ofBlock_other (hempty ▸ by decide) (hempty ▸ by decide)] at h
  cases h

/-- **A block that fails does so under the one name that it goes by.** -/
theorem isOf_ofBlock (h : (ofBlock registry block).value = failed failure) :
    failure.IsOf block.kinds block := by
  rw [Block.kinds]
  by_cases hrequirement : block.name = "REQUIREMENT"
  · rw [ofBlock_requirement hrequirement, ofLoad_eq_failed_iff] at h
    rw [if_pos hrequirement]
    exact Requirement.isOf_load h
  by_cases hparameter : block.name = "PARAMETER"
  · rw [ofBlock_parameter hparameter, ofLoad_eq_failed_iff] at h
    rw [if_neg hrequirement, if_pos hparameter]
    exact Parameter.isOf_load h
  · rw [ofBlock_other hrequirement hparameter] at h
    cases h

end Outcome

/-! ## Documents -/

/-- A failure is in a document exactly if a block came out as it. -/
theorem Contents.mem_failures_iff {registry : Registry} {blocks : List Block}
    {failure : LoadFailure} :
    failure ∈ (ofBlocks registry blocks).value.failures ↔
      ∃ block ∈ blocks, (Outcome.ofBlock registry block).value = .failed failure := by
  rw [value_ofBlocks]
  show failure ∈ (blocks.map _).filterMap Outcome.failure? ↔ _
  rw [List.filterMap_map, List.mem_filterMap]
  refine exists_congr fun block => and_congr_right fun _ => ?_
  exact Outcome.failure?_eq_some_iff

/-! ## The report -/

namespace Command

/-- What a report has on a failure: a line with its owner and the number of its
    diagnostics, and a line for each of the messages below. -/
def failureText (color : Bool) (owner : String) (messages : List String) : String :=
  "  " ++ (Style.red.piece "✗").render color ++ " " ++
    (Style.bold.piece owner).render color ++ " " ++
    (Style.dim.piece s!"({messages.length} error(s))").render color ++ "\n" ++
    String.join (messages.map fun message => "      " ++ message ++ "\n")

/-- The section of a report on these failures. -/
def diagnosticsText (color : Bool) (failures : List LoadFailure) : String :=
  "\n" ++ (Style.gray.piece "━━━ Diagnostics ━━━").render color ++ "\n" ++
    String.join (failures.map fun failure =>
      failureText color failure.owner (failure.diagnostics.map describe))

/-- A failure is written as its owner with all that it has to say below. -/
theorem renderLines_failureLines (color : Bool) (failure : LoadFailure) :
    renderLines color (failureLines failure) =
      failureText color failure.owner (failure.diagnostics.map describe) := by
  have hbelow : renderLines color (failure.diagnostics.map fun diagnostic =>
      detail (.plain (describe diagnostic))) =
        String.join ((failure.diagnostics.map describe).map fun message =>
          "      " ++ message ++ "\n") := by
    rw [renderLines, List.map_map, List.map_map]
    refine congrArg String.join (List.map_congr_left fun diagnostic _ => ?_)
    show String.join ["      ", describe diagnostic] ++ "\n" = _
    simp [String.join]
  rw [failureLines, renderLines_cons, hbelow, failureText, List.length_map]
  simp [Piece.render, Piece.plain, Style.piece, String.append_assoc]

/-- **The diagnostics of a report** stand above the summary, in a section of their
    own. -/
theorem exists_renderLines_reportLines_eq (registry : Registry) (wording : Wording)
    {contents : Contents} (h : contents.failures ≠ []) (showSaved : Bool)
    (elapsed : String) (color : Bool) :
    ∃ above, renderLines color (reportLines registry wording contents showSaved elapsed) =
      above ++ diagnosticsText color contents.failures ++
        renderLines color (sectionHeading "Summary" ++ summaryLines contents elapsed) := by
  have hlines : contents.failures.flatMap failureLines ≠ [] := by
    obtain ⟨first, rest, hfailures⟩ := List.exists_cons_of_ne_nil h
    rw [hfailures, List.flatMap_cons, failureLines]
    exact List.cons_ne_nil _ _
  have hsection : renderLines color
      (optionalSection "Diagnostics" (contents.failures.flatMap failureLines)) =
        diagnosticsText color contents.failures := by
    rw [optionalSection, if_neg (mt List.isEmpty_iff.mp hlines), renderLines_append,
      renderLines_flatMap, diagnosticsText]
    simp only [renderLines_failureLines]
    rfl
  rw [reportLines, List.append_assoc _ (sectionHeading "Summary"), renderLines_append,
    renderLines_append, hsection]
  exact ⟨_, rfl⟩

/-- Where every diagnostic has the one owner, what is shown of them is their texts
    without that owner in front. -/
theorem map_text_eq_map_describe {failure : LoadFailure}
    (h : ∀ diagnostic ∈ failure.diagnostics, diagnostic.owner = failure.owner) :
    failure.diagnostics.map Diagnostic.text =
      (failure.diagnostics.map describe).map (failure.owner ++ ": " ++ ·) := by
  rw [List.map_map]
  refine List.map_congr_left fun diagnostic hmem => ?_
  show diagnostic.text = failure.owner ++ ": " ++ describe diagnostic
  rw [describe_eq, Diagnostic.text, h diagnostic hmem]

end Command

namespace Contents

/-- **Every failure of a document has one owner, under which the report shows it.**  It
    comes from a block of the document, and its owner is the name that the block goes
    by, which is not empty.  It has diagnostics, all of them with that owner.  Whatever
    else a report says, its section on diagnostics has them below that owner, line by
    line, and a line is the text of a diagnostic without the owner in front. -/
theorem attributed_of_mem_failures {registry : Registry} {blocks : List Block}
    {failure : LoadFailure}
    (h : failure ∈ (ofBlocks registry blocks).value.failures) :
    (∃ block ∈ blocks, (Outcome.ofBlock registry block).value = .failed failure ∧
        block.GoesBy block.kinds failure.owner) ∧
      failure.owner ≠ "" ∧ failure.diagnostics ≠ [] ∧
      (∀ diagnostic ∈ failure.diagnostics, diagnostic.owner = failure.owner) ∧
      failure.diagnostics.map Diagnostic.text =
        (failure.diagnostics.map Command.describe).map (failure.owner ++ ": " ++ ·) ∧
      ∀ wording showSaved elapsed color, ∃ above,
        Command.renderLines color (Command.reportLines registry wording
            (ofBlocks registry blocks).value showSaved elapsed) =
          above ++ Command.diagnosticsText color (ofBlocks registry blocks).value.failures ++
            Command.renderLines color (Command.sectionHeading "Summary" ++
              Command.summaryLines (ofBlocks registry blocks).value elapsed) := by
  obtain ⟨block, hblock, hfailed⟩ := mem_failures_iff.mp h
  have hname := Outcome.name_ne_empty_of_failed hfailed
  obtain ⟨hgoes, howned⟩ := Outcome.isOf_ofBlock hfailed
  refine ⟨⟨block, hblock, hfailed, hgoes⟩, ?_, howned.ne_nil, howned.diagnostics,
    Command.map_text_eq_map_describe howned.diagnostics, ?_⟩
  · exact hgoes.ne_empty hname block.empty_not_mem_kinds
  · intro wording showSaved elapsed color
    exact Command.exists_renderLines_reportLines_eq registry wording
      (List.ne_nil_of_mem h) showSaved elapsed color

/-- A timer that is given the empty name, and what is wrong with it: it goes by its
    kind. -/
def nameless : Block × LoadFailure :=
  (⟨"PARAMETER", [("name", ""), ("hidden", "perhaps"), ("type", "Duration")]⟩,
   ⟨"Duration", [⟨"Duration", .field (.unreadable "hidden" "perhaps" .flag .notFlag)⟩,
     ⟨"Duration", .field (.missing "duration")⟩]⟩)

/-- The block is found among others, and its failure is shown under the kind. -/
theorem attributed_of_mem_failures_nameless :
    nameless.2 ∈ (ofBlocks .empty [⟨"NOTE", []⟩, nameless.1]).value.failures ∧
      (∃ block ∈ [⟨"NOTE", []⟩, nameless.1],
        (Outcome.ofBlock .empty block).value = .failed nameless.2 ∧
          block.GoesBy block.kinds "Duration") ∧
      "Duration" ≠ "" ∧ nameless.2.diagnostics ≠ [] ∧
      (∀ diagnostic ∈ nameless.2.diagnostics, diagnostic.owner = "Duration") ∧
      nameless.2.diagnostics.map Diagnostic.text =
        (nameless.2.diagnostics.map Command.describe).map ("Duration" ++ ": " ++ ·) ∧
      (∀ wording showSaved elapsed color, ∃ above,
        Command.renderLines color (Command.reportLines .empty wording
            (ofBlocks .empty [⟨"NOTE", []⟩, nameless.1]).value showSaved elapsed) =
          above ++ Command.diagnosticsText color
              (ofBlocks .empty [⟨"NOTE", []⟩, nameless.1]).value.failures ++
            Command.renderLines color (Command.sectionHeading "Summary" ++
              Command.summaryLines (ofBlocks .empty [⟨"NOTE", []⟩, nameless.1]).value
                elapsed)) ∧
      Command.diagnosticsText false
          (ofBlocks .empty [⟨"NOTE", []⟩, nameless.1]).value.failures =
        "\n━━━ Diagnostics ━━━\n  ✗ Duration (2 error(s))\n" ++
          "      error parsing 'hidden': 'perhaps' is not a valid boolean " ++
          "(expected 'true' or 'false')\n      missing required field 'duration'\n" := by
  have hmem : nameless.2 ∈ (ofBlocks .empty [⟨"NOTE", []⟩, nameless.1]).value.failures :=
    List.mem_singleton_self nameless.2
  obtain ⟨hgoes, howner, hne, howned, htexts, hreport⟩ := attributed_of_mem_failures hmem
  exact ⟨hmem, hgoes, howner, hne, howned, htexts, hreport, by decide +kernel⟩

end Contents

end ContractRules
