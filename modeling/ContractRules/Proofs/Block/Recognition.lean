import ContractRules.Block.Reader
import ContractRules.Proofs.Block.Grammar
import ContractRules.Proofs.Text.Significant

/-! # Recognition — the reader accepts exactly the grammar

    The reader sees one line at a time and remembers its stage.  What a stage
    still demands of the lines to come is a relation of the grammar
    (`Stage.Demands`): outside of a block a document, after a heading its brace,
    inside a block the rest of it.  One step of the reader passes the demand on
    (`completes_cons_iff`), and a run meets it or fails (`run_eq_ok_iff`).

    Line numbers appear in errors only, so nothing here depends on them. -/

namespace ContractRules.Block

open Text

variable {lines : List (List Char)} {blocks : List Block}

/-- What an open block with these entries demands: more entry lines, a closing
    brace, and then a document. -/
inductive Closes (name : String) :
    List (String × String) → List (List Char) → List Block → Prop where
  | close {entries : List (String × String)} {lines : List (List Char)}
      {blocks : List Block} :
      IsDocument lines blocks →
      Closes name entries (['\x7d'] :: lines) (⟨name, entries⟩ :: blocks)
  | entry {entries : List (String × String)} {entry : String × String}
      {line : List Char} {lines : List (List Char)} {blocks : List Block} :
      IsEntry line entry → Closes name (entries ++ [entry]) lines blocks →
      Closes name entries (line :: lines) blocks

/-- What a stage of the reader demands of the lines to come. -/
def Stage.Demands : Stage → List (List Char) → List Block → Prop
  | .outside, lines, blocks => IsDocument lines blocks
  | .awaiting _ name, lines, blocks =>
      ∃ rest, lines = ['\x7b'] :: rest ∧ Closes name [] rest blocks
  | .inside name entries, lines, blocks => Closes name entries.toList lines blocks

/-- The lines to come complete what was read so far to these blocks. -/
def Progress.Completes (progress : Progress) (lines : List (List Char))
    (blocks : List Block) : Prop :=
  ∃ rest, progress.stage.Demands lines rest ∧
    blocks = progress.blocks.toList ++ rest

/-! ## Open blocks in the grammar -/

/-- An open block whose remaining lines are those of the grammar is closed by
    them. -/
theorem closes_of_body {name : String} {body : List (List Char)}
    {more : List (String × String)} (hbody : List.Forall₂ IsEntry body more)
    (hdoc : IsDocument lines blocks) (entries : List (String × String)) :
    Closes name entries (body ++ ['\x7d'] :: lines)
      (⟨name, entries ++ more⟩ :: blocks) := by
  -- each entry line moves one entry from what is demanded to what was collected
  induction hbody generalizing entries with
  | nil =>
      rw [List.append_nil]
      exact Closes.close hdoc
  | @cons line entry body more hentry _ ih =>
      have hrest := ih (entries ++ [entry])
      rw [List.append_assoc] at hrest
      exact Closes.entry hentry hrest

/-- Whatever closes an open block is a row of entry lines, a closing brace and a
    document. -/
theorem Closes.exists_body {name : String} {entries : List (String × String)}
    (h : Closes name entries lines blocks) :
    ∃ body more after rest, List.Forall₂ IsEntry body more ∧
      IsDocument after rest ∧ lines = body ++ ['\x7d'] :: after ∧
      blocks = ⟨name, entries ++ more⟩ :: rest := by
  induction h with
  | close hdoc => exact ⟨[], [], _, _, .nil, hdoc, rfl, by rw [List.append_nil]⟩
  | entry hentry _ ih =>
      obtain ⟨body, more, after, rest, hbody, hdoc, rfl, rfl⟩ := ih
      refine ⟨_ :: body, _ :: more, after, rest, .cons hentry hbody, hdoc, rfl, ?_⟩
      rw [List.append_assoc]
      rfl

/-- A document is empty, or it begins with a header whose block is closed by the
    lines behind it. -/
theorem isDocument_iff :
    IsDocument lines blocks ↔
      (lines = [] ∧ blocks = []) ∨
        ∃ header name rest, IsHeader header name ∧ lines = header ++ rest ∧
          Closes (String.ofList name) [] rest blocks := by
  constructor
  · intro h
    cases h with
    | nil => exact Or.inl ⟨rfl, rfl⟩
    | cons hblock hdoc =>
        obtain ⟨hheader, hbody⟩ := hblock
        refine Or.inr ⟨_, _, _, hheader, ?_, closes_of_body hbody hdoc []⟩
        simp only [List.append_assoc, List.singleton_append]
  · rintro (⟨rfl, rfl⟩ | ⟨header, name, rest, hheader, rfl, hcloses⟩)
    · exact IsDocument.nil
    · obtain ⟨body, more, after, blocks, hbody, hdoc, rfl, rfl⟩ :=
        hcloses.exists_body
      have := IsDocument.cons (IsBlock.mk hheader hbody) hdoc
      simpa only [List.append_assoc, List.singleton_append, List.nil_append]
        using this

/-! ## What the next line must be -/

/-- No document has fewer lines than blocks need, so without lines there are no
    blocks. -/
theorem isDocument_nil_iff : IsDocument [] blocks ↔ blocks = [] := by
  constructor
  · intro h
    rcases isDocument_iff.mp h with ⟨-, hnil⟩ | ⟨_, _, _, hheader, heq, -⟩
    · exact hnil
    · cases hheader <;> cases heq
  · rintro rfl
    exact IsDocument.nil

/-- Outside of a block the next line is a heading, and what follows it is what
    the heading demands. -/
theorem isDocument_cons_iff {line : List Char} (htrim : trim line = line) :
    IsDocument (line :: lines) blocks ↔
      (∃ name, LineForm.of line = .heading name false ∧
        ∃ rest, lines = ['\x7b'] :: rest ∧
          Closes (String.ofList name) [] rest blocks) ∨
      ∃ name, LineForm.of line = .heading name true ∧
        Closes (String.ofList name) [] lines blocks := by
  simp only [form_eq_heading_false_iff htrim, form_eq_heading_true_iff]
  rw [isDocument_iff]
  constructor
  · rintro (⟨hnil, -⟩ | ⟨header, name, rest, hheader, heq, hcloses⟩)
    · cases hnil
    · cases hheader with
      | apart hname =>
          obtain ⟨rfl, rfl⟩ := List.cons.inj heq
          exact Or.inl ⟨line, ⟨rfl, hname⟩, rest, rfl, hcloses⟩
      | inline hname hgap =>
          obtain ⟨rfl, rfl⟩ := List.cons.inj heq
          exact Or.inr ⟨name, ⟨hname, _, hgap, rfl⟩, hcloses⟩
  · rintro (⟨name, ⟨rfl, hname⟩, rest, rfl, hcloses⟩ |
      ⟨name, ⟨hname, gap, hgap, rfl⟩, hcloses⟩)
    · exact Or.inr ⟨_, line, rest, .apart hname, rfl, hcloses⟩
    · exact Or.inr ⟨_, name, lines, .inline hname hgap, rfl, hcloses⟩

/-- Inside a block the next line closes it or is an entry of it. -/
theorem closes_cons_iff {name : String} {entries : List (String × String)}
    {line : List Char} :
    Closes name entries (line :: lines) blocks ↔
      (LineForm.of line = .closing ∧
        ∃ rest, IsDocument lines rest ∧ blocks = ⟨name, entries⟩ :: rest) ∨
      ∃ key value, LineForm.of line = .entry key value ∧
        Closes name (entries ++ [(String.ofList key, String.ofList value)])
          lines blocks := by
  constructor
  · intro h
    cases h with
    | close hdoc => exact Or.inl ⟨rfl, _, hdoc, rfl⟩
    | entry hentry hcloses =>
        obtain ⟨key, value, hform, rfl⟩ := isEntry_iff_form.mp hentry
        exact Or.inr ⟨key, value, hform, hcloses⟩
  · rintro (⟨hform, rest, hdoc, rfl⟩ | ⟨key, value, hform, hcloses⟩)
    · rw [form_eq_closing_iff.mp hform]
      exact Closes.close hdoc
    · exact Closes.entry (isEntry_iff_form.mpr ⟨key, value, hform, rfl⟩) hcloses

/-! ## The reader meets the demand -/

/-- **One step passes the demand on.**  Whatever number the line has, it takes
    the reader to a state that the remaining lines complete, or it is refused
    and nothing completes the state it was read in. -/
theorem completes_cons_iff {progress : Progress} {line : List Char}
    (htrim : trim line = line) (number : Nat) :
    progress.Completes (line :: lines) blocks ↔
      ∃ after, progress.take number line = .ok after ∧
        after.Completes lines blocks := by
  obtain ⟨_, done, stage⟩ := progress
  -- in each stage the demand on the next line lists the forms that `take` accepts
  cases stage with
  | outside =>
      simp only [Progress.Completes, Stage.Demands, isDocument_cons_iff htrim]
      cases hform : LineForm.of line with
      | heading name opened =>
          cases opened <;> simp [Progress.take, hform]
      | _ => simp [Progress.take, hform]
  | awaiting heading name =>
      simp only [Progress.Completes, Stage.Demands, List.cons.injEq,
        ← form_eq_opening_iff]
      cases hform : LineForm.of line <;> simp [Progress.take, hform]
  | inside name entries =>
      simp only [Progress.Completes, Stage.Demands, closes_cons_iff]
      cases hform : LineForm.of line <;> simp [Progress.take, hform]

/-- The text may end where nothing is demanded any more. -/
theorem finish_eq_ok_iff {progress : Progress} :
    progress.finish = .ok blocks ↔ progress.Completes [] blocks := by
  obtain ⟨_, done, stage⟩ := progress
  cases stage with
  | outside =>
      simp [Progress.finish, Progress.Completes, Stage.Demands,
        isDocument_nil_iff, eq_comm]
  | awaiting heading name =>
      simp [Progress.finish, Progress.Completes, Stage.Demands]
  | inside name entries =>
      simp only [Progress.finish, Progress.Completes, Stage.Demands]
      constructor
      · intro h
        cases h
      · rintro ⟨_, hcloses, -⟩
        cases hcloses

/-- Reads the lines to come and ends. -/
def Progress.run (progress : Progress) (lines : List (List Char)) :
    Except FormatError (List Block) := do
  (← lines.foldlM Progress.next progress).finish

theorem run_cons (progress : Progress) (line : List Char) :
    progress.run (line :: lines) =
      (progress.next line).bind fun after => after.run lines := by
  rw [Progress.run, List.foldlM_cons]
  cases progress.next line <;> rfl

/-- **A run meets the demand or fails**: it ends well exactly when the
    significant lines to come complete what was read. -/
theorem run_eq_ok_iff {progress : Progress} :
    progress.run lines = .ok blocks ↔
      progress.Completes (significantLines lines) blocks := by
  -- a blank line changes the line number only, every other one is a step
  induction lines generalizing progress with
  | nil => exact finish_eq_ok_iff
  | cons line lines ih =>
      rw [run_cons]
      cases hline : significant line with
      | nil =>
          rw [significantLines_cons_of_nil hline,
            show progress.next line = .ok { progress with line := progress.line + 1 }
              by rw [Progress.next, hline]]
          exact ih
      | cons c rest =>
          have hne : significant line ≠ [] := by
            rw [hline]
            exact List.cons_ne_nil c rest
          have htrim : trim (significant line) = significant line := trim_trim _
          rw [significantLines_cons_of_ne hne,
            completes_cons_iff htrim (progress.line + 1),
            show progress.next line =
              progress.take (progress.line + 1) (significant line)
              by rw [Progress.next, hline]]
          cases progress.take (progress.line + 1) (significant line) with
          | error fault => simp [Except.bind]
          | ok after => simpa [Except.bind] using ih

/-- Reading lines is recognising a document in their significant parts. -/
theorem ofLines_eq_ok_iff :
    ofLines lines = .ok blocks ↔ IsDocument (significantLines lines) blocks := by
  rw [show ofLines lines = Progress.start.run lines from rfl, run_eq_ok_iff]
  simp [Progress.Completes, Progress.start, Stage.Demands]

/-- **The reader accepts exactly the grammar**: a text reads as some blocks if
    and only if its significant lines are a document that consists of them. -/
theorem ofText_eq_ok_iff (text : String) (blocks : List Block) :
    ofText text = .ok blocks ↔
      IsDocument (significantLines (Text.lines text.toList)) blocks :=
  ofLines_eq_ok_iff

end ContractRules.Block
