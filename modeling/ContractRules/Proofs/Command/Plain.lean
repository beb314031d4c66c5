import ContractRules.Proofs.Command.Exit
import ContractRules.Proofs.Document.Plain
import ContractRules.Proofs.Registry.Growth

/-! # Plain reports — a report on plain input is made of plain pieces

    A report is put together from the registry, the contents of a document, and words
    and signs of its own.  If the arguments of a run and the text that it checks are
    plain, then so are the registry (`isPlain_of_says`) and the contents, and with
    them every piece of the report (`plainLines_reportLines`).  Styles are not part
    of a piece's text. -/

namespace ContractRules.Command

open Text (isPlain_append isPlain_toString)

/-! ## What arguments name -/

/-- The texts that a clause registers are plain. -/
def Clause.IsPlain : Clause → Prop
  | declarative type => Text.IsPlain type.name ∧ Text.IsPlain type.title
  | compiled path => Text.IsPlain path
  | color _ | showSaved | input _ => True

/-- A plain value describes a type with a plain name and a plain title. -/
theorem IsType.isPlain {valid : Bool} {value : String} {type : DeclarativeType}
    (h : IsType valid value type) (hvalue : Text.IsPlain value) :
    Text.IsPlain type.name ∧ Text.IsPlain type.title := by
  cases h with
  | @named name =>
      have hname : Text.IsPlain (String.ofList (Text.trim name)) := by
        refine hvalue.ofList fun c hmem => ?_
        rw [String.toList_ofList]
        exact Text.mem_of_mem_trim hmem
      exact ⟨hname, hname⟩
  | @titled name title =>
      constructor
      · refine hvalue.ofList fun c hmem => ?_
        rw [String.toList_ofList]
        exact List.mem_append_left _ (Text.mem_of_mem_trim hmem)
      · refine hvalue.ofList fun c hmem => ?_
        rw [String.toList_ofList]
        exact List.mem_append_right _ (List.mem_cons_of_mem _ (Text.mem_of_mem_trim hmem))

/-- The value that an argument holds is a part of it. -/
theorem IsJoined.isPlain {option argument value : String}
    (h : IsJoined option argument value) (hargument : Text.IsPlain argument) :
    Text.IsPlain value := by
  obtain ⟨count, heq, -⟩ := h
  intro hmem
  apply hargument
  rw [heq]
  exact List.mem_append_right _ hmem

/-- Plain arguments make a plain clause. -/
theorem IsClause.isPlain {front : List String} {clause : Clause}
    (h : IsClause front clause) (hfront : ∀ argument ∈ front, Text.IsPlain argument) :
    clause.IsPlain := by
  cases h with
  | color | noColor | save | input => trivial
  | type htype | invalidType htype => exact htype.isPlain (hfront _ (by simp))
  | compiled path => exact hfront path (by simp)
  | joinedType hjoined htype =>
      exact htype.isPlain (hjoined.isPlain (hfront _ (by simp)))
  | joinedCompiled hjoined => exact hjoined.isPlain (hfront _ (by simp))

theorem AreClauses.isPlain {arguments : List String} {clauses : List Clause}
    (h : AreClauses arguments clauses)
    (harguments : ∀ argument ∈ arguments, Text.IsPlain argument) :
    ∀ clause ∈ clauses, clause.IsPlain := by
  induction h with
  | nil => exact fun _ hmem => absurd hmem List.not_mem_nil
  | cons hclause _ ih =>
      rw [List.forall_mem_append] at harguments
      rw [List.forall_mem_cons]
      exact ⟨hclause.isPlain harguments.1, ih harguments.2⟩

/-- A compiled type goes by a part of its path. -/
theorem isPlain_ofPath {path : String} (h : Text.IsPlain path) :
    Text.IsPlain (CompiledType.ofPath path).name := by
  refine h.ofList fun c hmem => ?_
  rw [CompiledType.bareName, List.mem_reverse] at hmem
  exact List.mem_reverse.mp (List.takeWhile_subset _ hmem)

/-- **Plain arguments name plain types.** -/
theorem isPlain_of_says {arguments : List String} {clauses : List Clause}
    (h : Says arguments clauses)
    (harguments : ∀ argument ∈ arguments, Text.IsPlain argument) {registry : Registry}
    (hbuild : (draft clauses).build = .ok registry) : registry.IsPlain := by
  have hclauses := h.areClauses.isPlain harguments
  obtain ⟨hdeclarative, hcompiled⟩ := Registry.Draft.types_of_build hbuild
  constructor
  · rw [hdeclarative]
    intro type hmem
    -- only a clause for a declarative type puts one there
    obtain ⟨clause, hclause, htype⟩ := List.mem_filterMap.mp hmem
    cases clause with
    | declarative found =>
        rw [← Option.some.inj htype]
        exact hclauses _ hclause
    | color | showSaved | compiled | input => cases htype
  · rw [hcompiled]
    intro entry hmem
    obtain ⟨path, hpath, rfl⟩ := List.mem_map.mp hmem
    obtain ⟨clause, hclause, hfound⟩ := List.mem_filterMap.mp hpath
    cases clause with
    | compiled found =>
        rw [← Option.some.inj hfound]
        exact isPlain_ofPath (hclauses _ hclause)
    | color | showSaved | declarative | input => cases hfound

/-! ## Lines -/

/-- Lines whose pieces are plain. -/
def PlainLines (lines : List Line) : Prop :=
  ∀ line ∈ lines, ∀ piece ∈ line, Text.IsPlain piece.text

@[simp] theorem plainLines_append {first second : List Line} :
    PlainLines (first ++ second) ↔ PlainLines first ∧ PlainLines second :=
  List.forall_mem_append

@[simp] theorem plainLines_cons {line : Line} {lines : List Line} :
    PlainLines (line :: lines) ↔
      (∀ piece ∈ line, Text.IsPlain piece.text) ∧ PlainLines lines :=
  List.forall_mem_cons

theorem plainLines_nil : PlainLines [] := nofun

theorem plainLines_map {α : Type} {f : α → Line} {values : List α}
    (h : ∀ value ∈ values, ∀ piece ∈ f value, Text.IsPlain piece.text) :
    PlainLines (values.map f) :=
  List.forall_mem_map.mpr h

theorem plainLines_flatMap {α : Type} {f : α → List Line} {values : List α}
    (h : ∀ value ∈ values, PlainLines (f value)) : PlainLines (values.flatMap f) := by
  intro line hmem
  obtain ⟨value, hvalue, hline⟩ := List.mem_flatMap.mp hmem
  exact h value hvalue line hline

/-! ## Sections -/

theorem plainLines_sectionHeading {title : String} (h : Text.IsPlain title) :
    PlainLines (sectionHeading title) := by
  have hheading : Text.IsPlain ("━━━ " ++ title ++ " ━━━") :=
    h.between (by decide) (by decide)
  rw [sectionHeading, plainLines_cons, plainLines_cons, List.forall_mem_singleton]
  exact ⟨nofun, hheading, plainLines_nil⟩

theorem plainLines_linesOr {text : String} (htext : Text.IsPlain text)
    {lines : List Line} (hlines : PlainLines lines) : PlainLines (linesOr text lines) := by
  rw [linesOr]
  split
  · rw [emptySection, plainLines_cons, List.forall_mem_singleton]
    exact ⟨htext, plainLines_nil⟩
  · exact hlines

theorem plainLines_optionalSection {title : String} (htitle : Text.IsPlain title)
    {lines : List Line} (hlines : PlainLines lines) :
    PlainLines (optionalSection title lines) := by
  rw [optionalSection]
  split
  · exact plainLines_nil
  · exact plainLines_append.mpr ⟨plainLines_sectionHeading htitle, hlines⟩

/-! ## What the sections show -/

/-- A type with plain texts is shown in plain pieces. -/
theorem isPlain_typeLine {type : DeclarativeType} (hname : Text.IsPlain type.name)
    (htitle : Text.IsPlain type.title) :
    ∀ piece ∈ typeLine type, Text.IsPlain piece.text := by
  have hquoted : Text.IsPlain ("\"" ++ type.title ++ "\"") :=
    htitle.between (by decide) (by decide)
  have hspaced : Text.IsPlain (" " ++ type.name ++ " ") :=
    hname.between (by decide) (by decide)
  have hsign : Text.IsPlain "•" := by decide
  simp only [typeLine, List.forall_mem_cons]
  exact ⟨by decide, hsign, hspaced, hquoted, nofun⟩

/-- A definition with plain texts is announced in plain pieces. -/
theorem isPlain_announcement {name kind : String} (hname : Text.IsPlain name)
    (hkind : Text.IsPlain kind) :
    ∀ piece ∈ announcement name kind, Text.IsPlain piece.text := by
  have hbraced : Text.IsPlain ("(" ++ kind ++ ")") :=
    hkind.between (by decide) (by decide)
  simp only [announcement, List.forall_mem_cons]
  exact ⟨by decide, by decide, by decide, hname, by decide, hbraced, nofun⟩

theorem isPlain_detail {piece : Piece} (h : Text.IsPlain piece.text) :
    ∀ part ∈ detail piece, Text.IsPlain part.text := by
  simp only [detail, List.forall_mem_cons]
  exact ⟨by decide, h, nofun⟩

/-- A plain requirement is shown in plain lines, with its saved form or without. -/
theorem plainLines_requirementLines {registry : Registry} {requirement : Requirement}
    (hregistry : registry.IsPlain) (h : requirement.IsPlain) (showSaved : Bool) :
    PlainLines (requirementLines registry .none showSaved requirement) := by
  have hsaved : PlainLines (requirement.saved.map fun entry =>
      detail (Style.dim.piece (entry.1 ++ " = " ++ entry.2))) := by
    refine plainLines_map fun entry hmem => isPlain_detail ?_
    obtain ⟨hkey, hvalue⟩ := h.saved entry hmem
    exact isPlain_append.mpr ⟨isPlain_append.mpr ⟨hkey, by decide⟩, hvalue⟩
  rw [requirementLines, plainLines_cons, plainLines_cons]
  refine ⟨isPlain_announcement h.name h.kind, isPlain_detail (h.title_none hregistry), ?_⟩
  split
  · exact hsaved
  · exact plainLines_nil

theorem isPlain_parameterLine {parameter : Parameter} (h : parameter.base.IsPlain) :
    ∀ piece ∈ parameterLine parameter, Text.IsPlain piece.text := by
  rw [parameterLine, List.forall_mem_append, List.forall_mem_singleton]
  refine ⟨isPlain_announcement h.name h.kind, ?_⟩
  cases htitle : parameter.base.title? with
  | none =>
      show Text.IsPlain ""
      decide
  | some title =>
      show Text.IsPlain (" \"" ++ title ++ "\"")
      exact (h.title title htitle).between (by decide) (by decide)

theorem isPlain_skippedLine {name : String} (h : Text.IsPlain name) :
    ∀ piece ∈ skippedLine name, Text.IsPlain piece.text := by
  simp only [skippedLine, List.forall_mem_cons]
  exact ⟨by decide, by decide, isPlain_append.mpr ⟨by decide, h⟩, nofun⟩

/-- A plain failure is shown in plain lines. -/
theorem plainLines_failureLines {failure : LoadFailure} (h : failure.IsPlain) :
    PlainLines (failureLines failure) := by
  have hcount : Text.IsPlain ("(" ++ toString failure.diagnostics.length ++ " error(s))") :=
    (isPlain_toString _).between (by decide) (by decide)
  have hmessage (diagnostic : Diagnostic) (hmem : diagnostic ∈ failure.diagnostics) :
      Text.IsPlain (describe diagnostic) := by
    rw [describe_eq]
    exact h.problems diagnostic hmem
  rw [failureLines, plainLines_cons]
  constructor
  · simp only [List.forall_mem_cons]
    exact ⟨by decide, by decide, by decide, h.owner, by decide, hcount,
      List.forall_mem_nil _⟩
  · exact plainLines_map fun diagnostic hmem => isPlain_detail (hmessage diagnostic hmem)

/-- The summary is plain as long as the time is. -/
theorem plainLines_summaryLines (contents : Contents) {elapsed : String}
    (h : Text.IsPlain elapsed) : PlainLines (summaryLines contents elapsed) := by
  simp only [summaryLines, plainLines_cons, List.forall_mem_cons]
  exact ⟨⟨by decide, isPlain_toString _, by decide, isPlain_toString _, by decide, h, nofun⟩,
    nofun, plainLines_nil⟩

/-- **Every piece of a report is plain** if the registry, the contents and the time
    are. -/
theorem plainLines_reportLines {registry : Registry} {contents : Contents}
    {elapsed : String} (hregistry : registry.IsPlain) (hcontents : contents.IsPlain)
    (helapsed : Text.IsPlain elapsed) (showSaved : Bool) :
    PlainLines (reportLines registry .none contents showSaved elapsed) := by
  have htypes : PlainLines (registry.declarative.map typeLine) :=
    plainLines_map fun type hmem =>
      isPlain_typeLine (hregistry.declarative type hmem).1 (hregistry.declarative type hmem).2
  have hrequirements : PlainLines
      (contents.requirements.flatMap (requirementLines registry .none showSaved)) :=
    plainLines_flatMap fun requirement hmem =>
      plainLines_requirementLines hregistry (hcontents.requirements requirement hmem) showSaved
  have hparameters : PlainLines (contents.parameters.map parameterLine) :=
    plainLines_map fun parameter hmem =>
      isPlain_parameterLine (hcontents.parameters parameter hmem)
  have hskipped : PlainLines (contents.skipped.map skippedLine) :=
    plainLines_map fun name hmem => isPlain_skippedLine (hcontents.skipped name hmem)
  have hfailures : PlainLines (contents.failures.flatMap failureLines) :=
    plainLines_flatMap fun failure hmem =>
      plainLines_failureLines (hcontents.failures failure hmem)
  simp only [reportLines, plainLines_append]
  exact ⟨⟨⟨⟨⟨⟨⟨⟨⟨plainLines_sectionHeading (by decide), plainLines_linesOr (by decide) htypes⟩,
    plainLines_sectionHeading (by decide)⟩, plainLines_linesOr (by decide) hrequirements⟩,
    plainLines_sectionHeading (by decide)⟩, plainLines_linesOr (by decide) hparameters⟩,
    plainLines_optionalSection (by decide) hskipped⟩,
    plainLines_optionalSection (by decide) hfailures⟩,
    plainLines_sectionHeading (by decide)⟩, plainLines_summaryLines contents helapsed⟩

end ContractRules.Command
