import ContractRules.Proofs.Block.Plain
import ContractRules.Proofs.Definition.Steps
import ContractRules.Proofs.Journal.Report

/-! # Plain problems — what is told of a plain block is plain

    The wording of a problem quotes what it is about: the raw text of a field, an
    identifier, or the name of a kind.  All of these are values of the block, so a
    plain block has plain problems only.

    That a field reports plain problems is shown once for every type of field
    (`Field.plainSteps`).  Steps in a row report what each of them does, and so do
    loads in a row. -/

namespace ContractRules

open Text (isPlain_append isPlain_toString isPlain_intercalate)

variable {α β : Type}

/-! ## Wordings -/

/-- A problem whose wording is plain. -/
def Problem.IsPlain (problem : Problem) : Prop := Text.IsPlain problem.message

namespace Problem

variable {key raw identifier kind : String}

theorem isPlain_missing (h : Text.IsPlain key) : (field (.missing key)).IsPlain := by
  show Text.IsPlain ("missing required field '" ++ key ++ "'")
  exact h.between (by decide) (by decide)

/-- A plain value is refused in plain words if the reason is plain. -/
theorem isPlain_unreadable (hkey : Text.IsPlain key) (hraw : Text.IsPlain raw)
    (kind : ValueKind) {reason : ReadFault} (hreason : Text.IsPlain reason.message) :
    (field (.unreadable key raw kind reason)).IsPlain := by
  have hkind : Text.IsPlain kind.label := by
    cases kind <;> decide
  show Text.IsPlain ("error parsing '" ++ key ++ "': '" ++ raw ++ "' is not a valid " ++
    (kind.label ++ " (" ++ reason.message ++ ")"))
  simp only [isPlain_append]
  exact ⟨⟨⟨⟨⟨by decide, hkey⟩, by decide⟩, hraw⟩, by decide⟩,
    ⟨⟨hkind, by decide⟩, hreason⟩, by decide⟩

theorem isPlain_unresolvedType (h : Text.IsPlain identifier) :
    (unresolvedType identifier).IsPlain := by
  show Text.IsPlain (typeField ++ " '" ++ identifier ++
    "' must either name a declarative contract type " ++
      "or a registered compiled contract type")
  simp only [isPlain_append]
  exact ⟨⟨⟨⟨by decide, by decide⟩, h⟩, by decide⟩, by decide⟩

theorem isPlain_unknownRequirement (h : Text.IsPlain kind) :
    (unknownRequirement kind).IsPlain := by
  show Text.IsPlain ("unknown requirement type '" ++ kind ++ "'")
  exact h.between (by decide) (by decide)

theorem isPlain_unknownParameter (h : Text.IsPlain kind) :
    (unknownParameter kind).IsPlain := by
  show Text.IsPlain ("unknown parameter type '" ++ kind ++ "'")
  exact h.between (by decide) (by decide)

theorem isPlain_crossedCounts (least greatest : UInt32) :
    (crossedCounts least greatest).IsPlain := by
  show Text.IsPlain ("minCount (" ++ toString least.toNat ++
    ") must not exceed maxCount (" ++ toString greatest.toNat ++ ")")
  simp only [isPlain_append]
  exact ⟨⟨⟨⟨by decide, isPlain_toString _⟩, by decide⟩, isPlain_toString _⟩, by decide⟩

theorem isPlain_incomplete : incomplete.IsPlain := by
  show Text.IsPlain "definition is incomplete"
  decide

end Problem

/-! ## Steps -/

namespace Journal

/-- Steps that report plain problems only. -/
def PlainSteps (steps : List Step) : Prop := ∀ problem ∈ problems steps, problem.IsPlain

theorem plainSteps_nil : PlainSteps [] := nofun

theorem plainSteps_rename (owner : String) : PlainSteps [.rename owner] := nofun

theorem plainSteps_shadow (identifier : String) : PlainSteps [.shadow identifier] := nofun

theorem plainSteps_report {problem : Problem} (h : problem.IsPlain) :
    PlainSteps [.report problem] := by
  intro other hmem
  rw [List.mem_singleton.mp hmem]
  exact h

theorem PlainSteps.append {first second : List Step} (hfirst : PlainSteps first)
    (hsecond : PlainSteps second) : PlainSteps (first ++ second) := by
  rw [PlainSteps, problems_append, List.forall_mem_append]
  exact ⟨hfirst, hsecond⟩

end Journal

open Journal (PlainSteps plainSteps_nil plainSteps_rename plainSteps_report)

/-! ## Fields -/

/-- Types whose values are refused for plain reasons. -/
def Readable.IsPlain (α : Type) [Readable α] : Prop :=
  ∀ raw reason, (read raw : Except ReadFault α) = .error reason → Text.IsPlain reason.message

namespace Readable

theorem isPlain_text : IsPlain String := nofun

theorem isPlain_flag : IsPlain Bool := by
  intro raw reason h
  change readFlag (firstRaw raw) = .error reason at h
  rw [readFlag] at h
  split at h
  · cases h
  split at h
  · cases h
  · rw [← Except.error.inj h]
    decide

theorem isPlain_count : IsPlain UInt32 := by
  intro raw reason h
  change readCount (firstRaw raw) = .error reason at h
  rw [readCount] at h
  split at h
  · cases h
  · rw [← Except.error.inj h]
    decide

theorem isPlain_span : IsPlain Seconds := by
  intro raw reason h
  change readSpan (firstRaw raw) = .error reason at h
  rw [readSpan] at h
  split at h
  · cases h
  · rw [← Except.error.inj h]
    decide

end Readable

namespace Field

variable [Readable α] {field : Field α} {block : Block}

/-- Whatever a field makes of its values, it reports nothing but what they are and
    the reason why they are refused. -/
theorem plainSteps (hblock : block.IsPlain) (hname : Text.IsPlain field.name)
    (hreasons : ∀ raw reason, field.reader?.getD Readable.read raw = .error reason →
      Text.IsPlain reason.message) : PlainSteps (field.steps block) := by
  have hraw : ∀ value ∈ field.rawValues block, Text.IsPlain value := by
    rw [rawValues]
    split
    · exact hblock.all field.name
    · intro value hmem
      exact hblock.first? (Option.mem_toList.mp hmem)
  -- a step is a report of a missing field or of a refused value
  rw [steps, read]
  split
  · exact plainSteps_nil
  · rename_i fault hread
    refine plainSteps_report ?_
    split at hread
    · split at hread
      · cases hread
      · rw [← Except.error.inj hread]
        exact Problem.isPlain_missing hname
    · rename_i hvalues
      split at hread
      · cases hread
      · rename_i reason hreason
        rw [← Except.error.inj hread]
        exact Problem.isPlain_unreadable hname (isPlain_intercalate (by decide) hraw) _
          (hreasons _ reason hreason)

/-- An optional field with a plain name is read in plain steps. -/
theorem plainSteps_optional (hα : Readable.IsPlain α) (hblock : block.IsPlain)
    {name : String} (hname : Text.IsPlain name) (default : α) :
    PlainSteps ((optional name default).steps block) :=
  plainSteps hblock hname hα

theorem plainSteps_required (hα : Readable.IsPlain α) (hblock : block.IsPlain)
    {name : String} (hname : Text.IsPlain name) :
    PlainSteps ((required name : Field α).steps block) :=
  plainSteps hblock hname hα

end Field

/-! ## Identities -/

namespace Identity

variable {block : Block}

/-- The identity of a plain block is read in plain steps. -/
theorem plainSteps (hblock : block.IsPlain) : PlainSteps (steps block) := by
  refine (Field.plainSteps_required Readable.isPlain_text hblock (by decide)).append ?_
  split
  · exact plainSteps_rename _
  · exact plainSteps_nil

theorem plainSteps_known {κ : Type} (ofName? : String → Option κ)
    {unknown : String → Problem}
    (hunknown : ∀ name, Text.IsPlain name → (unknown name).IsPlain)
    (hblock : block.IsPlain) : PlainSteps (knownSteps ofName? unknown block) := by
  rw [knownSteps]
  split
  · exact plainSteps_report (Problem.isPlain_missing (by decide))
  · rename_i name hname
    split
    · exact plainSteps_nil
    · exact plainSteps_report (hunknown name (hblock.first? hname))

/-- The name and the kind of a definition are values of its block, or empty. -/
theorem isPlain_ofBlock (hblock : block.IsPlain) :
    Text.IsPlain (ofBlock block).name ∧ Text.IsPlain (ofBlock block).kind := by
  have hkind : Text.IsPlain ((Field.required kindField : Field String).worth block) := by
    rw [Field.worth, Field.read_required_text]
    cases hfirst : block.first? kindField with
    | none => decide
    | some kind => exact hblock.first? hfirst
  refine ⟨?_, hkind⟩
  rw [ofBlock, Field.worth_of_ok (Field.read_optional_text _ _ _)]
  cases hfirst : block.first? "name" with
  | none => exact hkind
  | some name => exact hblock.first? hfirst

end Identity

/-! ## Loads -/

/-- A load that reports plain problems only. -/
def Load.IsPlain (load : Load α) : Prop := ∀ problem ∈ load.problems, problem.IsPlain

namespace Load

theorem isPlain_of_ok {load : Load α} {value : α} (h : load.run.value = .ok value) :
    load.IsPlain := by
  rw [IsPlain, problems_of_ok h]
  exact nofun

/-- One plain load after another is plain. -/
theorem IsPlain.bind {first : Load α} {next : α → Load β} (hfirst : first.IsPlain)
    (hnext : ∀ value, first.run.value = .ok value → (next value).IsPlain) :
    (first >>= next).IsPlain := by
  cases hvalue : first.run.value with
  | error failure =>
      rw [IsPlain, problems_bind_of_error hvalue]
      exact hfirst
  | ok value =>
      rw [IsPlain, problems_bind_of_ok hvalue]
      exact hnext value hvalue

theorem IsPlain.map {load : Load α} (h : load.IsPlain) (f : α → β) :
    (f <$> load).IsPlain := by
  rw [map_eq_pure_bind]
  exact h.bind fun _ _ => isPlain_of_ok rfl

/-- A plain load that fails has plain problems only. -/
theorem IsPlain.of_error {load : Load α} (h : load.IsPlain) {failure : LoadFailure}
    (hvalue : load.run.value = .error failure) :
    ∀ diagnostic ∈ failure.diagnostics, diagnostic.problem.IsPlain := by
  intro diagnostic hmem
  refine h diagnostic.problem ?_
  rw [problems, diagnostics, hvalue]
  exact List.mem_map_of_mem hmem

end Load

/-- A load whose steps report plain problems does so, for that a definition is
    incomplete is told in plain words. -/
theorem Reading.Does.isPlain_conclude {reading : Reading (Option α)} {value? : Option α}
    {steps : List Journal.Step} (h : Does reading value? steps)
    (hsteps : PlainSteps steps) (owner : String) : (reading.conclude owner).IsPlain := by
  rw [Load.IsPlain, h.problems_conclude, List.forall_mem_append]
  refine ⟨hsteps, ?_⟩
  split
  · intro problem hmem
    rw [List.mem_singleton.mp hmem]
    exact Problem.isPlain_incomplete
  · exact nofun

end ContractRules
