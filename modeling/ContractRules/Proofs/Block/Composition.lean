import ContractRules.Proofs.Block.Numbering
import ContractRules.Proofs.Text.Split

/-! # Composition — documents one after the other

    A text that ends with a line feed leaves nothing of its last line to the text
    behind it.  If it is a document, then it leaves nothing open either: the
    reader goes on as it would from the start, except for the lines and the blocks
    that it has behind it (`Progress.behind`).

    To have lines in front is to have other numbers.  So one step of the reader does
    not look at what is behind it (`next_behind`), and no run does (`run_behind`).
    It comes back in the end, in front of the blocks that are read and in the line
    of the error. -/

namespace ContractRules.Block

open Text

/-! ## Behind other text -/

/-- The same error in a text that has so many lines in front of it. -/
def FormatError.behind (lines : Nat) (error : FormatError) : FormatError :=
  error.renumbered (lines + ·)

/-- The same progress in a text that has so many lines, and these blocks, in front
    of it. -/
def Progress.behind (lines : Nat) (blocks : List Block) (progress : Progress) :
    Progress :=
  progress.renumbered (lines + ·) blocks

variable {lines : Nat} {blocks : List Block}

/-- **One step does not look back.** -/
theorem next_behind (progress : Progress) (line : List Char) :
    (progress.behind lines blocks).next line =
      ((progress.next line).map (·.behind lines blocks)).mapError
        (·.behind lines) := by
  rw [Progress.next, Progress.next]
  cases significant line with
  | nil => rfl
  | cons c rest =>
      exact take_renumbered (lines + ·) blocks progress (progress.line + 1) (c :: rest)

/-- **No run looks back.** -/
theorem run_behind (progress : Progress) (rows : List (List Char)) :
    (progress.behind lines blocks).run rows =
      ((progress.run rows).map (blocks ++ ·)).mapError (·.behind lines) := by
  induction rows generalizing progress with
  | nil => exact finish_renumbered (lines + ·) blocks progress
  | cons row rows ih =>
      rw [run_cons, run_cons, next_behind]
      cases progress.next row with
      | error error => rfl
      | ok after => exact ih after

/-! ## From one document to the next -/

/-- A step counts its line. -/
theorem line_of_next {progress after : Progress} {line : List Char}
    (h : progress.next line = .ok after) : after.line = progress.line + 1 := by
  cases hline : significant line with
  | nil =>
      rw [next_of_nil hline] at h
      rw [← Except.ok.inj h]
  | cons c said =>
      rw [next_of_cons hline] at h
      exact line_of_take h

/-- Steps count all the lines that they take. -/
theorem line_of_foldlM {progress after : Progress} {rows : List (List Char)}
    (h : rows.foldlM Progress.next progress = .ok after) :
    after.line = progress.line + rows.length := by
  induction rows generalizing progress with
  | nil => rw [← Except.ok.inj h, List.length_nil, Nat.add_zero]
  | cons row rows ih =>
      rw [List.foldlM_cons] at h
      cases hnext : progress.next row with
      | error error =>
          rw [hnext] at h
          cases h
      | ok middle =>
          rw [hnext] at h
          rw [ih h, line_of_next hnext, List.length_cons, Nat.add_assoc,
            Nat.add_comm 1]

theorem run_append (progress : Progress) (front rest : List (List Char)) :
    progress.run (front ++ rest) =
      (front.foldlM Progress.next progress).bind (·.run rest) := by
  rw [Progress.run, List.foldlM_append]
  cases front.foldlM Progress.next progress <;> rfl

/-- A document leaves the reader where it has read its blocks and nothing else. -/
theorem foldlM_of_run {progress : Progress} {rows : List (List Char)}
    (h : progress.run rows = .ok blocks) :
    rows.foldlM Progress.next progress =
      .ok ⟨progress.line + rows.length, blocks.toArray, .outside⟩ := by
  rw [Progress.run] at h
  cases hrows : rows.foldlM Progress.next progress with
  | error error =>
      rw [hrows] at h
      cases h
  | ok after =>
      rw [hrows] at h
      have hfinish : after.finish = .ok blocks := h
      have hline := line_of_foldlM hrows
      obtain ⟨line, done, stage⟩ := after
      cases stage with
      | outside =>
          rw [← Except.ok.inj hfinish, ← hline]
      | awaiting heading name => cases hfinish
      | inside name entries => cases hfinish

/-- What is read behind a document: its blocks come first, and its lines count. -/
theorem ofLines_append {front : List (List Char)} (h : ofLines front = .ok blocks)
    (rest : List (List Char)) :
    ofLines (front ++ rest) =
      ((ofLines rest).map (blocks ++ ·)).mapError (·.behind front.length) := by
  have hrun : Progress.start.run front = .ok blocks := h
  have hfront := foldlM_of_run hrun
  rw [show ofLines (front ++ rest) = Progress.start.run (front ++ rest) from rfl,
    run_append, hfront]
  have hstart : (⟨Progress.start.line + front.length, blocks.toArray, .outside⟩ :
      Progress) = Progress.start.behind front.length blocks := by
    simp [Progress.start, Progress.behind, Progress.renumbered, Stage.renumbered]
  rw [hstart]
  exact run_behind .start rest

/-- **Documents compose.**  Behind a document that ends with a line feed, or is
    empty, another one adds its blocks.  A text that is none fails there as it
    does alone, with the error so many lines further down. -/
theorem ofText_append {front : String} {blocks : List Block}
    (hend : front = "" ∨ ∃ init, front = init ++ "\n")
    (hfront : ofText front = .ok blocks) (rest : String) :
    (∀ more, ofText rest = .ok more → ofText (front ++ rest) = .ok (blocks ++ more)) ∧
      ∀ error, ofText rest = .error error →
        ofText (front ++ rest) =
          .error (error.behind (Text.lines front.toList).length) := by
  have hlast : front.toList = [] ∨ front.toList.getLast? = some '\n' := by
    rcases hend with rfl | ⟨init, rfl⟩
    · exact Or.inl rfl
    · rw [String.toList_append]
      exact Or.inr List.getLast?_concat
  -- the lines of the front are all there before those of the rest
  have hrest : ofText (front ++ rest) = ((ofText rest).map (blocks ++ ·)).mapError
      (·.behind (Text.lines front.toList).length) := by
    rw [ofText, String.toList_append, Text.lines_append hlast]
    exact ofLines_append hfront _
  rw [hrest]
  constructor
  · intro more hmore
    rw [hmore]
    rfl
  · intro error herror
    rw [herror]
    rfl

/-- A document with a comment and an empty line. -/
def laidOut : String := "A \x7b // note\n\nk = v\n\x7d\n"

/-- A heading that is not opened keeps its own line behind a document. -/
theorem ofText_append_laidOut :
    (laidOut = "" ∨ ∃ init, laidOut = init ++ "\n") ∧
      ofText laidOut = .ok [⟨"A", [("k", "v")]⟩] ∧
      ofText "\nB\n// note\nk = v" = .error (.notOpened 2 "B") ∧
      ofText (laidOut ++ "\nB\n// note\nk = v") = .error (.notOpened 6 "B") := by
  have hend : laidOut = "" ∨ ∃ init, laidOut = init ++ "\n" :=
    Or.inr ⟨"A \x7b // note\n\nk = v\n\x7d", rfl⟩
  have hfront : ofText laidOut = .ok [⟨"A", [("k", "v")]⟩] := rfl
  have hrest : ofText "\nB\n// note\nk = v" = .error (.notOpened 2 "B") := rfl
  exact ⟨hend, hfront, hrest, (ofText_append hend hfront _).2 _ hrest⟩

end ContractRules.Block
