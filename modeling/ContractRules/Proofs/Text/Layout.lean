import ContractRules.Proofs.Text.Significant
import ContractRules.Proofs.Text.Split

/-! # Layout — what can be added to a text without saying more

    Blanks around a line, a comment behind it, a carriage return in front of its
    line feed: a line can be `Padded`, and a text is `Relaid` when one of its lines
    is.  Whole lines can be put in between as well, as long as they are silent
    (`IsSilent`); `interspersed` says where.

    None of it changes what a line says (`Relaid.exists_line`), and what is put in
    between says nothing (`IsSilent.significant_eq_nil`). -/

namespace ContractRules.Text

/-! ## Within the lines -/

/-- Blanks that end no line. -/
def IsGap (gap : List Char) : Prop := (∀ c ∈ gap, isBlank c = true) ∧ '\n' ∉ gap

/-- The second line is the first one with some layout added. -/
inductive Padded : List Char → List Char → Prop where
  | before {gap line : List Char} : IsGap gap → Padded line (gap ++ line)
  | behind {gap line : List Char} : IsGap gap → Padded line (line ++ gap)
  /-- A comment is set off from the line by blanks. -/
  | note {gap line note : List Char} : IsGap gap → gap ≠ [] → '\n' ∉ note →
      Padded line (line ++ gap ++ commentMark ++ note)

/-- A text that goes on with the end of a line, or does not go on. -/
inductive EndsLine : List Char → Prop where
  | nothing : EndsLine []
  | feed {rest : List Char} : EndsLine ('\n' :: rest)
  | returnFeed {rest : List Char} : EndsLine ('\r' :: '\n' :: rest)

/-- The second text is the first one with some layout added to one of its lines. -/
inductive Relaid : List Char → List Char → Prop where
  | line {front line other rest : List Char} :
      (front = [] ∨ front.getLast? = some '\n') → '\n' ∉ line → EndsLine rest →
      Padded line other → Relaid (front ++ line ++ rest) (front ++ other ++ rest)
  | lineEnd {front rest : List Char} :
      Relaid (front ++ '\n' :: rest) (front ++ '\r' :: '\n' :: rest)

/-- Layout says nothing. -/
theorem Padded.significant_eq {line other : List Char} (h : Padded line other) :
    significant other = significant line := by
  cases h with
  | before hgap => exact significant_append_of_blank_left hgap.1 line
  | @behind gap _ hgap =>
      cases gap with
      | nil => rw [List.append_nil]
      | cons c gap =>
          have hend := significant_append_of_blank_right hgap.1
            (List.cons_ne_nil c gap) line [] rfl
          rwa [List.append_nil] at hend
  | note hgap hne _ =>
      rw [List.append_assoc, List.append_assoc]
      exact significant_append_of_blank_right hgap.1 hne line _ rfl

/-- Layout ends no line. -/
theorem Padded.no_line_feed {line other : List Char} (h : Padded line other)
    (hline : '\n' ∉ line) : '\n' ∉ other := by
  cases h with
  | before hgap =>
      rw [List.mem_append, not_or]
      exact ⟨hgap.2, hline⟩
  | behind hgap =>
      rw [List.mem_append, not_or]
      exact ⟨hline, hgap.2⟩
  | note hgap _ hnote =>
      simp only [List.mem_append, not_or]
      exact ⟨⟨⟨hline, hgap.2⟩, by decide⟩, hnote⟩

/-- A carriage return is a blank behind the line that it ends. -/
theorem significant_append_return (line : List Char) :
    significant (line ++ ['\r']) = significant line := by
  have hreturn : ∀ c ∈ ['\r'], isBlank c = true := List.all_eq_true.mp rfl
  exact significant_append_of_blank_right hreturn (List.cons_ne_nil _ _) line [] rfl

/-- Layout that is added to a text changes one line, up to its line feed, and that
    line still says the same. -/
theorem Relaid.exists_line {text other : List Char} (h : Relaid text other) :
    ∃ front line relaid rest, text = front ++ line ++ rest ∧
      other = front ++ relaid ++ rest ∧ (front = [] ∨ front.getLast? = some '\n') ∧
      '\n' ∉ line ∧ '\n' ∉ relaid ∧ (rest = [] ∨ rest.head? = some '\n') ∧
      significant relaid = significant line := by
  cases h with
  | @line front line other rest hfront hline hrest hpadded =>
      have hother := hpadded.no_line_feed hline
      have hsame := hpadded.significant_eq
      cases hrest with
      | nothing =>
          exact ⟨front, line, other, [], rfl, rfl, hfront, hline, hother, Or.inl rfl,
            hsame⟩
      | @feed rest =>
          exact ⟨front, line, other, '\n' :: rest, rfl, rfl, hfront, hline, hother,
            Or.inr rfl, hsame⟩
      | @returnFeed rest =>
          -- up to the line feed, the line has the carriage return at its end
          refine ⟨front, line ++ ['\r'], other ++ ['\r'], '\n' :: rest, ?_, ?_, hfront,
            ?_, ?_, Or.inr rfl, ?_⟩
          · simp only [List.append_assoc, List.singleton_append]
          · simp only [List.append_assoc, List.singleton_append]
          · simp [hline]
          · simp [hother]
          · rw [significant_append_return, significant_append_return, hsame]
  | @lineEnd before rest =>
      obtain ⟨front, line, rfl, hfront, hline⟩ := exists_lastLine before
      refine ⟨front, line, line ++ ['\r'], '\n' :: rest, rfl, ?_, hfront, hline, ?_,
        Or.inr rfl, significant_append_return line⟩
      · simp only [List.append_assoc, List.singleton_append]
      · simp [hline]

/-! ## Between the lines -/

/-- A line that says nothing: blanks, and perhaps a comment behind them. -/
inductive IsSilent : List Char → Prop where
  | blank {gap : List Char} : (∀ c ∈ gap, isBlank c = true) → IsSilent gap
  | note {gap note : List Char} : (∀ c ∈ gap, isBlank c = true) →
      IsSilent (gap ++ commentMark ++ note)

/-- A silent line says nothing to the reader. -/
theorem IsSilent.significant_eq_nil {line : List Char} (h : IsSilent line) :
    significant line = [] := by
  cases h with
  | blank hgap =>
      have hline := significant_append_of_blank_left hgap []
      rwa [List.append_nil] at hline
  | note hgap =>
      rw [List.append_assoc, significant_append_of_blank_left hgap]
      rfl

/-- Lines with other ones put in between.  `added n` is put in below the first `n`
    lines and above the next one. -/
def interspersed (added : Nat → List (List Char)) :
    List (List Char) → List (List Char)
  | [] => added 0
  | line :: rest =>
    added 0 ++ line :: interspersed (fun place => added (place + 1)) rest

/-- How many lines are put in above the line of this number, counted from one. -/
def addedAbove (added : Nat → List (List Char)) (number : Nat) : Nat :=
  ((List.range number).flatMap added).length

theorem addedAbove_succ (added : Nat → List (List Char)) (number : Nat) :
    addedAbove added (number + 1) =
      (added 0).length + addedAbove (fun place => added (place + 1)) number := by
  rw [addedAbove, List.range_succ_eq_map, List.flatMap_cons, List.length_append,
    List.flatMap_map]
  rfl

end ContractRules.Text
