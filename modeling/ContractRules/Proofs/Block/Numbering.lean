import ContractRules.Proofs.Block.Recognition

/-! # Numbering — a line is what it says and its number

    Lines that say nothing are counted and passed over, and of any other line the
    reader takes what it says and its number.  So a text is no more to it than a
    row of `numbered` lines: it reads the text as it reads them (`run_eq_read`).

    Numbers are never compared, they only come back in errors.  One step under
    other numbers is the same step (`take_renumbered`), and so is a whole reading
    (`read_renumbered`); nor does it matter which blocks were read before. -/

namespace ContractRules.Block

open Text

/-! ## Numbered lines -/

/-- What lines say behind so many other ones, each under its number. -/
def numbered (above : Nat) : List (List Char) → List (Nat × List Char)
  | [] => []
  | line :: rest =>
    match significant line with
    | [] => numbered (above + 1) rest
    | c :: said => (above + 1, c :: said) :: numbered (above + 1) rest

/-- Takes numbered lines one after the other, and ends. -/
def Progress.read (progress : Progress) (rows : List (Nat × List Char)) :
    Except FormatError (List Block) := do
  (← rows.foldlM (fun progress row => progress.take row.1 row.2) progress).finish

variable {line : List Char} {above : Nat}

theorem numbered_cons_of_nil (h : significant line = []) (above : Nat)
    (rest : List (List Char)) :
    numbered above (line :: rest) = numbered (above + 1) rest := by
  rw [numbered, h]

theorem numbered_cons_of_cons {c : Char} {said : List Char}
    (h : significant line = c :: said) (above : Nat) (rest : List (List Char)) :
    numbered above (line :: rest) =
      (above + 1, c :: said) :: numbered (above + 1) rest := by
  rw [numbered, h]

/-- A line may be put differently. -/
theorem numbered_cons_congr {other : List Char}
    (h : significant line = significant other) (above : Nat)
    (rest : List (List Char)) :
    numbered above (line :: rest) = numbered above (other :: rest) := by
  rw [numbered, numbered, h]

/-- Numbers go on from one row of lines to the next. -/
theorem numbered_append (above : Nat) (front rest : List (List Char)) :
    numbered above (front ++ rest) =
      numbered above front ++ numbered (above + front.length) rest := by
  induction front generalizing above with
  | nil => rfl
  | cons line front ih =>
      have hrest := ih (above + 1)
      rw [Nat.add_assoc, Nat.add_comm 1] at hrest
      rw [List.cons_append, List.length_cons]
      cases hline : significant line with
      | nil => rw [numbered_cons_of_nil hline, numbered_cons_of_nil hline, hrest]
      | cons c said =>
          rw [numbered_cons_of_cons hline, numbered_cons_of_cons hline, hrest,
            List.cons_append]

/-- Lines that say nothing leave numbers free. -/
theorem numbered_append_of_silent {front : List (List Char)}
    (h : ∀ row ∈ front, significant row = []) (above : Nat)
    (rest : List (List Char)) :
    numbered above (front ++ rest) = numbered (above + front.length) rest := by
  induction front generalizing above with
  | nil => rfl
  | cons row front ih =>
      rw [List.cons_append, numbered_cons_of_nil (h row List.mem_cons_self),
        ih fun other hmem => h other (List.mem_cons_of_mem _ hmem), List.length_cons,
        Nat.add_assoc, Nat.add_comm 1]

/-! ## Reading numbered lines -/

theorem read_cons (progress : Progress) (row : Nat × List Char)
    (rows : List (Nat × List Char)) :
    progress.read (row :: rows) =
      (progress.take row.1 row.2).bind fun after => after.read rows := by
  rw [Progress.read, List.foldlM_cons]
  cases progress.take row.1 row.2 <;> rfl

/-- Numbered lines bring their numbers along, so the reader need not count. -/
theorem read_at (progress : Progress) (number : Nat)
    (rows : List (Nat × List Char)) :
    Progress.read { progress with line := number } rows = progress.read rows := by
  cases rows with
  | nil => rfl
  | cons row rows =>
      rw [read_cons, read_cons]
      rfl

theorem next_of_nil (h : significant line = []) (progress : Progress) :
    progress.next line = .ok { progress with line := progress.line + 1 } := by
  rw [Progress.next, h]

theorem next_of_cons {c : Char} {said : List Char} (h : significant line = c :: said)
    (progress : Progress) :
    progress.next line = progress.take (progress.line + 1) (c :: said) := by
  rw [Progress.next, h]

theorem line_of_take {progress after : Progress} {number : Nat}
    (h : progress.take number line = .ok after) : after.line = number := by
  obtain ⟨_, done, stage⟩ := progress
  dsimp only [Progress.take] at h
  split at h <;> cases h <;> rfl

/-- **Reading is reading numbered lines**: nothing else of a text is looked at. -/
theorem run_eq_read (progress : Progress) (rows : List (List Char)) :
    progress.run rows = progress.read (numbered progress.line rows) := by
  induction rows generalizing progress with
  | nil => rfl
  | cons row rows ih =>
      rw [run_cons]
      cases hrow : significant row with
      | nil =>
          rw [next_of_nil hrow, numbered_cons_of_nil hrow]
          show Progress.run { progress with line := progress.line + 1 } rows = _
          rw [ih, read_at]
      | cons c said =>
          rw [next_of_cons hrow, numbered_cons_of_cons hrow, read_cons]
          cases htake : progress.take (progress.line + 1) (c :: said) with
          | error error => rfl
          | ok after =>
              show after.run rows = after.read _
              rw [ih, line_of_take htake]

/-- A document is read off its numbered lines. -/
theorem ofLines_eq_read (rows : List (List Char)) :
    ofLines rows = Progress.start.read (numbered 0 rows) :=
  run_eq_read .start rows

/-! ## Other numbers -/

/-- The same error where lines have other numbers. -/
def FormatError.renumbered (number : Nat → Nat) : FormatError → FormatError
  | notAnEntry line text => notAnEntry (number line) text
  | nested line name => nested (number line) name
  | strayEntry line => strayEntry (number line)
  | strayClose line => strayClose (number line)
  | notOpened line name => notOpened (number line) name
  | notClosed name => notClosed name

/-- The same stage where lines have other numbers. -/
def Stage.renumbered (number : Nat → Nat) : Stage → Stage
  | .outside => .outside
  | .awaiting line name => .awaiting (number line) name
  | .inside name entries => .inside name entries

/-- The same progress where lines have other numbers and these blocks were read
    before. -/
def Progress.renumbered (number : Nat → Nat) (blocks : List Block)
    (progress : Progress) : Progress :=
  ⟨number progress.line, blocks.toArray ++ progress.blocks,
    progress.stage.renumbered number⟩

section
variable (number : Nat → Nat) (blocks : List Block)

/-- **One step takes numbers as they come.** -/
theorem take_renumbered (progress : Progress) (line : Nat) (said : List Char) :
    (progress.renumbered number blocks).take (number line) said =
      ((progress.take line said).map (·.renumbered number blocks)).mapError
        (·.renumbered number) := by
  obtain ⟨_, done, stage⟩ := progress
  -- which forms a stage takes does not depend on numbers, nor on what was read
  cases stage <;>
    rcases hform : LineForm.of said with _ | _ | ⟨name, _ | _⟩ | ⟨key, value⟩ | _ <;>
    simp [Progress.take, Progress.renumbered, Stage.renumbered, hform, Except.map,
      Except.mapError, FormatError.renumbered]

/-- The end of a reading takes numbers as they come. -/
theorem finish_renumbered (progress : Progress) :
    (progress.renumbered number blocks).finish =
      (progress.finish.map (blocks ++ ·)).mapError (·.renumbered number) := by
  obtain ⟨_, done, stage⟩ := progress
  cases stage with
  | outside =>
      simp [Progress.finish, Progress.renumbered, Stage.renumbered, Except.map,
        Except.mapError]
  | awaiting heading name => rfl
  | inside name entries => rfl

/-- **A reading takes numbers as they come**, and so they come back. -/
theorem read_renumbered (progress : Progress) (rows : List (Nat × List Char)) :
    (progress.renumbered number blocks).read
        (rows.map fun row => (number row.1, row.2)) =
      ((progress.read rows).map (blocks ++ ·)).mapError (·.renumbered number) := by
  induction rows generalizing progress with
  | nil => exact finish_renumbered number blocks progress
  | cons row rows ih =>
      rw [List.map_cons, read_cons, read_cons, take_renumbered]
      cases progress.take row.1 row.2 with
      | error error => rfl
      | ok after => exact ih after

end

end ContractRules.Block
