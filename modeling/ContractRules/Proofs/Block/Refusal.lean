import ContractRules.Proofs.Block.Composition

/-! # Refusal — where an error points

    The reader refuses a text as soon as nothing that follows could mend it.  So
    the line of an error is the first wrong one: what stands above it can still
    become a document, and nothing that begins with the same lines can
    (`FirstWrong`).  Two errors are seen later than that.  A heading without its
    brace is reported at its own line when something else follows, or nothing
    (`NeverOpened`), and a block that is still open at the end has no line.

    A step fails in one of two ways (`next_eq_error_cases`): the form of the line
    is wrong for the stage, or it is not the brace that a heading waits for.  In
    the second case the error needs the past, and what the reader has of it is in
    the lines that it has read (`EndsInHeading`, `endsInHeading_of_foldlM`). -/

namespace ContractRules.Block

open Text

/-! ## What an error says about its text -/

/-- What stands above a line of a text. -/
def textAbove (line : Nat) (text : String) : String :=
  String.ofList (firstLines (line - 1) text.toList)

/-- A line is the first wrong one of a text: what stands above it reads as blocks
    or ends inside one, and can be continued to a document, while every text with
    lines that say the same down to this one is refused with the same error. -/
structure FirstWrong (text : String) (line : Nat) (error : FormatError) : Prop where
  bounds : 1 ≤ line ∧ line ≤ (Text.lines text.toList).length
  above : (∃ blocks, ofText (textAbove line text) = .ok blocks) ∨
    ∃ name, ofText (textAbove line text) = .error (.notClosed name)
  mendable : ∃ more blocks, ofText (textAbove line text ++ more) = .ok blocks
  refused : ∀ other : String,
    ((Text.lines other.toList).take line).map significant =
      ((Text.lines text.toList).take line).map significant →
    ofText other = .error error

/-- A line of a text is a heading that is never opened: what stands above it reads
    as blocks, the line is a name alone, and what follows is not the brace.  If
    nothing follows, an empty block can be made of it. -/
structure NeverOpened (text : String) (line : Nat) (name : String) : Prop where
  bounds : 1 ≤ line ∧ line ≤ (Text.lines text.toList).length
  above : ∃ blocks, ofText (textAbove line text) = .ok blocks
  heading : IsName name.toList ∧
    (Text.lines text.toList)[line - 1]?.map significant = some name.toList
  unopened :
    (significantLines ((Text.lines text.toList).drop line)).head? ≠ some ['\x7b']
  mendable : significantLines ((Text.lines text.toList).drop line) = [] →
    ∃ blocks, ofText (text ++ "\n\x7b\n\x7d") = .ok blocks

/-- What an error says about the text that it comes from. -/
def FormatError.Explains (text : String) (error : FormatError) : Prop :=
  match error with
  | notAnEntry line _ | nested line _ | strayEntry line | strayClose line =>
    FirstWrong text line error
  | notOpened line name => NeverOpened text line name
  | notClosed _ => ∃ blocks, ofText (text ++ "\n\x7d") = .ok blocks

/-- The text above a line has the lines above that line. -/
theorem lines_textAbove (line : Nat) (text : String) :
    Text.lines (textAbove line text).toList =
      (Text.lines text.toList).take (line - 1) := by
  rw [textAbove, String.toList_ofList, lines_firstLines]

/-! ## Going on after a text -/

variable {text : String} {progress : Progress}

/-- A line feed and more behind a text are more lines, whether or not the text has
    a line feed at its end already. -/
theorem exists_lines_append (text rest : List Char) :
    ∃ more, lines (text ++ '\n' :: rest) = lines text ++ more ∧
      significantLines more = significantLines (lines rest) := by
  obtain ⟨front, line, rfl, hfront, hline⟩ := exists_lastLine text
  rw [List.append_assoc, lines_append hfront, lines_append hfront,
    lines_append_line hline]
  by_cases hne : line = []
  · rw [hne, lines_nil, List.append_nil]
    exact ⟨[] :: lines rest, rfl, significantLines_cons_of_nil rfl _⟩
  · rw [lines_eq_singleton hline hne]
    exact ⟨lines rest, List.append_cons .., rfl⟩

theorem finish_of_outside (h : progress.stage = .outside) :
    progress.finish = .ok progress.blocks.toList := by
  rw [Progress.finish, h]

/-- A text that ends behind a heading lacks the brace. -/
theorem finish_of_awaiting {heading : Nat} {name : String}
    (h : progress.stage = .awaiting heading name) :
    progress.finish = .error (.notOpened heading name) := by
  rw [Progress.finish, h]

/-- A text that ends inside a block lacks its end. -/
theorem finish_of_inside {name : String} {entries : Array (String × String)}
    (h : progress.stage = .inside name entries) :
    progress.finish = .error (.notClosed name) := by
  rw [Progress.finish, h]

/-- Where every line can be taken, the end of the text decides. -/
theorem ofText_eq_finish
    (h : (Text.lines text.toList).foldlM Progress.next .start = .ok progress) :
    ofText text = progress.finish := by
  rw [ofText, ofLines, h]
  rfl

/-- What is read of a text and of lines behind it. -/
theorem ofText_append_lines
    (h : (Text.lines text.toList).foldlM Progress.next .start = .ok progress)
    {stop : String} {rest : List Char} (hstop : stop.toList = '\n' :: rest)
    {blocks : List Block}
    (hrun : ∀ more, significantLines more = significantLines (lines rest) →
      progress.run more = .ok blocks) :
    ofText (text ++ stop) = .ok blocks := by
  obtain ⟨more, hlines, hmore⟩ := exists_lines_append text.toList rest
  rw [ofText, String.toList_append, hstop, hlines,
    show ofLines _ = Progress.start.run _ from rfl, run_append, h]
  exact hrun more hmore

/-- A closing brace is all that an open block lacks. -/
theorem ofText_append_close {name : String} {entries : Array (String × String)}
    (h : (Text.lines text.toList).foldlM Progress.next .start = .ok progress)
    (hstage : progress.stage = .inside name entries) :
    ∃ blocks, ofText (text ++ "\n\x7d") = .ok blocks := by
  have hstop : ("\n\x7d" : String).toList = '\n' :: ['\x7d'] := rfl
  refine ⟨progress.blocks.toList ++ [⟨name, entries.toList⟩],
    ofText_append_lines h hstop ?_⟩
  intro more hmore
  refine run_eq_ok_iff.mpr ⟨_, ?_, rfl⟩
  rw [hstage, hmore]
  exact Closes.close .nil

/-- Two braces are all that a heading lacks. -/
theorem ofText_append_braces {heading : Nat} {name : String}
    (h : (Text.lines text.toList).foldlM Progress.next .start = .ok progress)
    (hstage : progress.stage = .awaiting heading name) :
    ∃ blocks, ofText (text ++ "\n\x7b\n\x7d") = .ok blocks := by
  have hstop : ("\n\x7b\n\x7d" : String).toList =
      '\n' :: ['\x7b', '\n', '\x7d'] := rfl
  refine ⟨progress.blocks.toList ++ [⟨name, []⟩], ofText_append_lines h hstop ?_⟩
  intro more hmore
  refine run_eq_ok_iff.mpr ⟨_, ?_, rfl⟩
  rw [hstage, hmore]
  exact ⟨[['\x7d']], rfl, Closes.close .nil⟩

/-! ## Runs that fail -/

/-- A run that fails does so at a line, or at the end. -/
theorem exists_of_run_eq_error {rows : List (List Char)} {error : FormatError}
    (h : progress.run rows = .error error) :
    (∃ front row rest after, rows = front ++ row :: rest ∧
      front.foldlM Progress.next progress = .ok after ∧
      after.next row = .error error) ∨
    ∃ after, rows.foldlM Progress.next progress = .ok after ∧
      after.finish = .error error := by
  induction rows generalizing progress with
  | nil => exact Or.inr ⟨progress, rfl, h⟩
  | cons row rows ih =>
      rw [run_cons] at h
      cases hnext : progress.next row with
      | error reason =>
          rw [hnext] at h
          obtain rfl : reason = error := Except.error.inj h
          exact Or.inl ⟨[], row, rows, progress, rfl, rfl, hnext⟩
      | ok middle =>
          rw [hnext] at h
          -- a good first row goes in front of whatever the rest splits into
          have hmore : ∀ more, (row :: more).foldlM Progress.next progress =
              more.foldlM Progress.next middle := by
            intro more
            rw [List.foldlM_cons, hnext]
            rfl
          rcases ih h with ⟨front, wrong, rest, after, rfl, hfront, hwrong⟩ |
            ⟨after, hrows, hfinish⟩
          · exact Or.inl ⟨row :: front, wrong, rest, after, rfl,
              (hmore front).trans hfront, hwrong⟩
          · exact Or.inr ⟨after, (hmore rows).trans hrows, hfinish⟩

/-- What stands behind a refused line is not read. -/
theorem run_append_of_error {rows : List (List Char)} {error : FormatError}
    (h : rows.foldlM Progress.next progress = .error error)
    (rest : List (List Char)) : progress.run (rows ++ rest) = .error error := by
  rw [run_append, h]
  rfl

theorem foldlM_concat (progress : Progress) (rows : List (List Char))
    (row : List Char) :
    (rows ++ [row]).foldlM Progress.next progress =
      (rows.foldlM Progress.next progress).bind (·.next row) := by
  rw [List.foldlM_append]
  cases rows.foldlM Progress.next progress with
  | error error => rfl
  | ok after =>
      show List.foldlM Progress.next after [row] = after.next row
      rw [List.foldlM_cons]
      cases after.next row <;> rfl

/-- An error that points at this line because the line itself is wrong. -/
def FormatError.IsSeenAt (line : Nat) : FormatError → Prop
  | notAnEntry number _ | nested number _ | strayEntry number | strayClose number =>
    number = line
  | notOpened .. | notClosed _ => False

/-- **How a step fails**: a heading is not opened by the line, or the form of the
    line is wrong for the stage. -/
theorem next_eq_error_cases {row : List Char} {error : FormatError}
    (h : progress.next row = .error error) :
    (∃ heading name, progress.stage = .awaiting heading name ∧
      error = .notOpened heading name ∧
      significant row ≠ [] ∧ significant row ≠ ['\x7b']) ∨
    (∀ heading name, progress.stage ≠ .awaiting heading name) ∧
      error.IsSeenAt (progress.line + 1) := by
  cases hrow : significant row with
  | nil =>
      rw [next_of_nil hrow] at h
      cases h
  | cons c said =>
      rw [next_of_cons hrow] at h
      obtain ⟨_, done, stage⟩ := progress
      -- a waiting heading is blamed itself, any other stage blames the row
      cases stage with
      | awaiting heading name =>
          refine Or.inl ⟨heading, name, rfl, ?_, List.cons_ne_nil c said, ?_⟩
          · cases hform : LineForm.of (c :: said) <;>
              simp only [Progress.take, hform] at h <;> cases h <;> rfl
          · intro hbrace
            rw [Progress.take, hbrace] at h
            cases h
      | _ =>
          refine Or.inr ⟨?_, ?_⟩
          · intro heading name hstage
            cases hstage
          · rcases hform : LineForm.of (c :: said) with _ | _ | ⟨name, _ | _⟩ |
              ⟨key, value⟩ | _ <;>
              simp only [Progress.take, hform] at h <;> cases h <;> rfl

/-! ## The heading that an error points at -/

/-- Rows that end in a heading: what stands above it reads as blocks, and below it
    are only lines that say nothing. -/
inductive EndsInHeading : List (List Char) → Nat → String → Prop where
  | mk {front silent : List (List Char)} {row : List Char} {name : String}
      {blocks : List Block} :
      ofLines front = .ok blocks → IsName name.toList →
      significant row = name.toList → significantLines silent = [] →
      EndsInHeading (front ++ row :: silent) (front.length + 1) name

/-- A line that says nothing leaves the heading where it is. -/
theorem EndsInHeading.snoc {rows : List (List Char)} {heading : Nat} {name : String}
    (h : EndsInHeading rows heading name) {row : List Char}
    (hrow : significant row = []) : EndsInHeading (rows ++ [row]) heading name := by
  cases h with
  | @mk front silent line _ blocks hfront hname hline hsilent =>
      rw [List.append_assoc, List.cons_append]
      refine .mk hfront hname hline ?_
      rw [significantLines_append, hsilent, significantLines_cons_of_nil hrow]
      rfl

/-- The reader waits for a brace if it did before and the line says nothing, or if
    the line is a name outside of any block. -/
theorem awaiting_of_next {after : Progress} {row : List Char} {heading : Nat}
    {name : String} (h : progress.next row = .ok after)
    (hstage : after.stage = .awaiting heading name) :
    (significant row = [] ∧ progress.stage = .awaiting heading name) ∨
      progress.stage = .outside ∧ heading = progress.line + 1 ∧
        IsName name.toList ∧ significant row = name.toList := by
  have htrim : trim (significant row) = significant row := trim_trim _
  cases hrow : significant row with
  | nil =>
      rw [next_of_nil hrow] at h
      cases h
      exact Or.inl ⟨rfl, hstage⟩
  | cons c said =>
      rw [next_of_cons hrow] at h
      rw [hrow] at htrim
      obtain ⟨line, done, stage⟩ := progress
      cases stage <;>
        rcases hform : LineForm.of (c :: said) with _ | _ | ⟨found, _ | _⟩ |
          ⟨key, value⟩ | _ <;>
        simp only [Progress.take, hform] at h <;> cases h <;> cases hstage
      -- only a heading that is not opened outside of a block is left
      obtain ⟨hsaid, hname⟩ := (form_eq_heading_false_iff htrim).mp hform
      rw [String.toList_ofList]
      exact Or.inr ⟨rfl, rfl, hname, hsaid⟩

/-- **A heading that is waited for was read**: the lines so far end in it. -/
theorem endsInHeading_of_foldlM {rows : List (List Char)} {heading : Nat}
    {name : String} (h : rows.foldlM Progress.next .start = .ok progress)
    (hstage : progress.stage = .awaiting heading name) :
    EndsInHeading rows heading name := by
  -- the heading is the last line that says anything, so the induction is from behind
  induction rows using List.reverseRecOn generalizing progress with
  | nil =>
      cases h
      cases hstage
  | append_singleton rows row ih =>
      rw [foldlM_concat] at h
      cases hrows : rows.foldlM Progress.next .start with
      | error error =>
          rw [hrows] at h
          cases h
      | ok before =>
          rw [hrows] at h
          have hnext : before.next row = .ok progress := h
          rcases awaiting_of_next hnext hstage with ⟨hrow, hbefore⟩ |
            ⟨hbefore, rfl, hname, hrow⟩
          · exact (ih hrows hbefore).snoc hrow
          · have hfront : ofLines rows = .ok before.blocks.toList := by
              rw [ofLines, hrows]
              exact finish_of_outside hbefore
            rw [line_of_foldlM hrows, show Progress.start.line = 0 from rfl,
              Nat.zero_add]
            exact .mk hfront hname hrow rfl

/-! ## Errors explain themselves -/

/-- Lines that say the same read the same. -/
theorem foldlM_next_congr {rows others : List (List Char)}
    (h : others.map significant = rows.map significant) (progress : Progress) :
    others.foldlM Progress.next progress = rows.foldlM Progress.next progress := by
  induction rows generalizing others progress with
  | nil => rw [List.map_eq_nil_iff.mp h]
  | cons row rows ih =>
      obtain ⟨other, others, rfl, hrow, hrows⟩ := List.map_eq_cons_iff.mp h
      have hnext : progress.next other = progress.next row := by
        rw [Progress.next, Progress.next, hrow]
      rw [List.foldlM_cons, List.foldlM_cons, hnext]
      exact congrArg _ (funext fun after => ih hrows after)

/-- A text in which no heading is waited for is a document or ends inside a block,
    and can be continued to a document. -/
theorem mendable_of_foldlM
    (h : (Text.lines text.toList).foldlM Progress.next .start = .ok progress)
    (hstage : ∀ heading name, progress.stage ≠ .awaiting heading name) :
    ((∃ blocks, ofText text = .ok blocks) ∨
      ∃ name, ofText text = .error (.notClosed name)) ∧
      ∃ more blocks, ofText (text ++ more) = .ok blocks := by
  have htext := ofText_eq_finish h
  cases hprogress : progress.stage with
  | outside =>
      rw [finish_of_outside hprogress] at htext
      refine ⟨Or.inl ⟨_, htext⟩, "", progress.blocks.toList, ?_⟩
      rw [String.append_empty]
      exact htext
  | awaiting heading name => exact absurd hprogress (hstage heading name)
  | inside name entries =>
      rw [finish_of_inside hprogress] at htext
      exact ⟨Or.inr ⟨name, htext⟩, _, ofText_append_close h hprogress⟩

/-- A text that is refused at a line is refused however it goes on behind it, and
    however it is put down to it. -/
theorem ofText_eq_error_of_same {other : String} {line : Nat} {error : FormatError}
    (h : ((Text.lines text.toList).take line).foldlM Progress.next .start =
      .error error)
    (hsame : ((Text.lines other.toList).take line).map significant =
      ((Text.lines text.toList).take line).map significant) :
    ofText other = .error error := by
  have hother := (foldlM_next_congr hsame .start).trans h
  have hrun := run_append_of_error hother ((Text.lines other.toList).drop line)
  rw [List.take_append_drop] at hrun
  exact hrun

/-- A line whose form is wrong for its stage is the first wrong one. -/
theorem firstWrong_of_next {front rest : List (List Char)} {row : List Char}
    {error : FormatError} (hlines : Text.lines text.toList = front ++ row :: rest)
    (hfront : front.foldlM Progress.next .start = .ok progress)
    (hstage : ∀ heading name, progress.stage ≠ .awaiting heading name)
    (hrow : progress.next row = .error error) :
    FirstWrong text (front.length + 1) error := by
  -- what is above is read, what includes the row is refused
  have habove : (Text.lines (textAbove (front.length + 1) text).toList).foldlM
      Progress.next .start = .ok progress := by
    rw [lines_textAbove, hlines, Nat.add_sub_cancel, List.take_left]
    exact hfront
  have hthrough : ((Text.lines text.toList).take (front.length + 1)).foldlM
      Progress.next .start = .error error := by
    rw [hlines, List.take_length_add_append, List.take_succ_cons, List.take_zero,
      foldlM_concat, hfront]
    exact hrow
  have hbounds : front.length + 1 ≤ (Text.lines text.toList).length := by
    rw [hlines, List.length_append, List.length_cons]
    omega
  obtain ⟨hread, hmend⟩ := mendable_of_foldlM habove hstage
  exact {
    bounds := ⟨Nat.le_add_left 1 _, hbounds⟩
    above := hread
    mendable := hmend
    refused := fun _ hsame => ofText_eq_error_of_same hthrough hsame }

/-- A heading that is not opened by what is read next, if anything is, is never
    opened. -/
theorem neverOpened_of_endsInHeading {front rest : List (List Char)} {heading : Nat}
    {name : String} (hlines : Text.lines text.toList = front ++ rest)
    (h : EndsInHeading front heading name)
    (hrest : (significantLines rest).head? ≠ some ['\x7b'])
    (hmend : significantLines rest = [] →
      ∃ blocks, ofText (text ++ "\n\x7b\n\x7d") = .ok blocks) :
    NeverOpened text heading name := by
  cases h with
  | @mk above silent row _ blocks habove hname hrow hsilent =>
      rw [List.append_assoc, List.cons_append] at hlines
      -- nothing but silent lines stands between the heading and what is read next
      have hbelow : significantLines ((Text.lines text.toList).drop (above.length + 1)) =
          significantLines rest := by
        rw [hlines, List.drop_length_add_append, List.drop_succ_cons, List.drop_zero,
          significantLines_append, hsilent, List.nil_append]
      refine ⟨⟨Nat.le_add_left 1 _, ?_⟩, ⟨blocks, ?_⟩, ⟨hname, ?_⟩, ?_, ?_⟩
      · rw [hlines, List.length_append, List.length_cons]
        omega
      · rw [ofText, lines_textAbove, hlines, Nat.add_sub_cancel, List.take_left]
        exact habove
      · rw [hlines, Nat.add_sub_cancel, List.getElem?_append_right (Nat.le_refl _),
          Nat.sub_self, List.getElem?_cons_zero, Option.map_some, hrow]
      · rwa [hbelow]
      · rwa [hbelow]

/-- An error seen at the first line that is wrong explains the text. -/
theorem FormatError.IsSeenAt.explains {line : Nat} {error : FormatError}
    (h : error.IsSeenAt line) (hfirst : FirstWrong text line error) :
    error.Explains text := by
  cases error with
  | notOpened heading name => exact h.elim
  | notClosed name => exact h.elim
  | _ =>
      obtain rfl : _ = line := h
      exact hfirst

/-- **Errors point at the earliest wrong line.**  A line that an error is about is
    the first one after which nothing can mend the text, except for a heading that
    lacks its brace, which is reported where it stands.  What is open in the end
    lacks no more than its braces. -/
theorem explains_of_ofText_eq_error {text : String} {error : FormatError}
    (h : ofText text = .error error) : error.Explains text := by
  have hrun : Progress.start.run (Text.lines text.toList) = .error error := h
  rcases exists_of_run_eq_error hrun with
    ⟨front, row, rest, progress, hlines, hfront, hrow⟩ | ⟨progress, hlines, hfinish⟩
  · rcases next_eq_error_cases hrow with
      ⟨heading, name, hstage, rfl, hsaid, hbrace⟩ | ⟨hstage, hseen⟩
    · -- the line gives the heading away, and it is neither silent nor the brace
      have hrest := significantLines_cons_of_ne hsaid rest
      refine neverOpened_of_endsInHeading hlines
        (endsInHeading_of_foldlM hfront hstage) ?_ ?_
      · rw [hrest]
        exact fun hhead => hbrace (Option.some.inj hhead)
      · intro hnone
        rw [hrest] at hnone
        cases hnone
    · have hline := line_of_foldlM hfront
      rw [show Progress.start.line = 0 from rfl, Nat.zero_add] at hline
      rw [hline] at hseen
      exact hseen.explains (firstWrong_of_next hlines hfront hstage hrow)
  · -- all lines are read, and the text ends too early for its stage
    cases hstage : progress.stage with
    | outside =>
        rw [finish_of_outside hstage] at hfinish
        cases hfinish
    | awaiting heading name =>
        rw [finish_of_awaiting hstage] at hfinish
        cases hfinish
        exact neverOpened_of_endsInHeading (List.append_nil _).symm
          (endsInHeading_of_foldlM hlines hstage) nofun
          fun _ => ofText_append_braces hlines hstage
    | inside name entries =>
        rw [finish_of_inside hstage] at hfinish
        cases hfinish
        exact ofText_append_close hlines hstage

/-- A closing brace outside of a block, a heading above something else, and a block
    that is open in the end. -/
theorem explains_of_ofText_eq_error_unbalanced :
    FirstWrong "A \x7b\n\x7d\n\x7d // note" 3 (.strayClose 3) ∧
      NeverOpened "\nB // note\n\nk = v" 2 "B" ∧
      ∃ blocks, ofText ("A \x7b // note\nk = v" ++ "\n\x7d") = .ok blocks := by
  have hstray : ofText "A \x7b\n\x7d\n\x7d // note" = .error (.strayClose 3) := rfl
  have hheading : ofText "\nB // note\n\nk = v" = .error (.notOpened 2 "B") := rfl
  have hopen : ofText "A \x7b // note\nk = v" = .error (.notClosed "A") := rfl
  exact ⟨explains_of_ofText_eq_error hstray, explains_of_ofText_eq_error hheading,
    explains_of_ofText_eq_error hopen⟩

end ContractRules.Block
