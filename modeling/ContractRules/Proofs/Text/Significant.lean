import ContractRules.Proofs.Text.Trim
import ContractRules.Text.Line

/-! # Significant lines — what a document says, line by line

    A reader of line-based text never sees a line feed, a comment or a blank at
    the end of a line.  This file says so for the pieces (`not_mem_of_mem_lines`,
    `commentMark_not_infix_cutComment`) and for what is made of them: a
    significant line is `Clean`, and a clean line is its own significant part.

    The lines of a text keep a carriage return in front of their line feed.  It is
    a blank behind its line, and blanks around a line make no difference
    (`significant_append_of_blank_left`, `significant_append_of_blank_right`). -/

namespace ContractRules.Text

/-- What a comment begins with. -/
def commentMark : List Char := ['/', '/']

/-- The significant parts of lines, without the lines that have none. -/
def significantLines (lines : List (List Char)) : List (List Char) :=
  (lines.map significant).filter (· ≠ [])

/-! ## Lines hold no line feed -/

/-- No line of a text holds a line feed. -/
theorem not_mem_of_mem_lines {text line : List Char} (h : line ∈ lines text) :
    '\n' ∉ line := by
  induction text generalizing line with
  | nil => exact absurd h List.not_mem_nil
  | cons c text ih =>
      rw [lines_cons] at h
      cases ht : lines text with
      | nil =>
          rw [ht, consChar] at h
          split at h
          · rw [List.mem_singleton.mp h]
            exact List.not_mem_nil
          · rename_i hc
            rw [List.mem_singleton.mp h, List.mem_singleton]
            exact fun he => hc he.symm
      | cons first rest =>
          rw [ht] at ih
          rw [ht, consChar] at h
          -- a line feed opens a line, anything else goes in front of the first
          split at h
          · rcases List.mem_cons.mp h with heq | hmem
            · rw [heq]
              exact List.not_mem_nil
            · exact ih hmem
          · rename_i hc
            rcases List.mem_cons.mp h with heq | hmem
            · rw [heq, List.mem_cons, not_or]
              exact ⟨fun he => hc he.symm, ih List.mem_cons_self⟩
            · exact ih (List.mem_cons_of_mem _ hmem)

/-- Lines without line feeds, each ended by one, are the first lines of the
    text that they begin. -/
theorem lines_flatMap_append {rows : List (List Char)}
    (h : ∀ row ∈ rows, '\n' ∉ row) (rest : List Char) :
    lines (rows.flatMap (· ++ ['\n']) ++ rest) = rows ++ lines rest := by
  induction rows with
  | nil => rfl
  | cons row rows ih =>
      rw [List.flatMap_cons, List.append_assoc, List.append_assoc,
        List.singleton_append, lines_append_line (h row List.mem_cons_self),
        ih fun other hmem => h other (List.mem_cons_of_mem _ hmem)]
      rfl

/-! ## Comments -/

/-- Cutting looks for the mark at each place, from the front. -/
theorem cutComment_cons (c : Char) (rest : List Char) :
    cutComment (c :: rest) =
      if commentMark <+: c :: rest then [] else c :: cutComment rest := by
  by_cases h : commentMark <+: c :: rest
  · rw [if_pos h]
    obtain ⟨left, hleft⟩ := h
    rw [← hleft]
    rfl
  · rw [if_neg h, cutComment]
    rintro left rfl rfl
    exact h ⟨left, rfl⟩

theorem cutComment_isPrefix (line : List Char) : cutComment line <+: line := by
  induction line with
  | nil => exact List.prefix_rfl
  | cons c rest ih =>
      rw [cutComment_cons]
      split
      · exact List.nil_prefix
      · exact (List.prefix_cons_inj c).mpr ih

/-- No comment is left after cutting. -/
theorem commentMark_not_infix_cutComment (line : List Char) :
    ¬ commentMark <:+: cutComment line := by
  induction line with
  | nil => decide
  | cons c rest ih =>
      rw [cutComment_cons]
      split
      · decide
      · rename_i hmark
        rw [List.infix_cons_iff, not_or]
        refine ⟨?_, ih⟩
        -- a mark in front of what is kept is a mark in front of the line
        intro h
        exact hmark (h.trans ((List.prefix_cons_inj c).mpr (cutComment_isPrefix rest)))

/-- A line without a comment keeps everything in front of a character that is
    no slash. -/
theorem cutComment_append_cons {front : List Char}
    (hfront : ¬ commentMark <:+: front) {c : Char} (hc : c ≠ '/')
    (rest : List Char) :
    cutComment (front ++ c :: rest) = front ++ c :: cutComment rest := by
  induction front with
  | nil =>
      rw [List.nil_append, cutComment_cons, if_neg]
      · rfl
      · rintro ⟨left, hleft⟩
        exact hc (List.cons.inj hleft).1.symm
  | cons d front ih =>
      rw [List.infix_cons_iff, not_or] at hfront
      rw [List.cons_append, cutComment_cons, if_neg, ih hfront.2]
      · rfl
      · rintro ⟨left, hleft⟩
        obtain ⟨hd, hrest⟩ := List.cons.inj hleft
        -- two slashes at the seam would need the second to be `c` or in front
        cases front with
        | nil => exact hc (List.cons.inj hrest).1.symm
        | cons e front =>
            have he : '/' = e := (List.cons.inj hrest).1
            refine hfront.1 ⟨front, ?_⟩
            rw [← hd, ← he]
            rfl

/-- What follows a comment goes with it. -/
theorem cutComment_append_of_mark {line : List Char} (h : commentMark <:+: line)
    (more : List Char) : cutComment (line ++ more) = cutComment line := by
  induction line with
  | nil => exact absurd h (by decide)
  | cons c rest ih =>
      rw [List.cons_append, cutComment_cons, cutComment_cons]
      by_cases hmark : commentMark <+: c :: rest
      · have hmore : commentMark <+: c :: (rest ++ more) :=
          hmark.trans (List.prefix_append (c :: rest) more)
        rw [if_pos hmark, if_pos hmore]
      · have hrest : commentMark <:+: rest :=
          (List.infix_cons_iff.mp h).resolve_left hmark
        -- the mark lies behind `c`, so the line is too long for a mark at the seam
        have hlen : commentMark.length ≤ (c :: rest).length := h.length_le
        have hmore : ¬ commentMark <+: c :: (rest ++ more) := by
          intro hp
          exact hmark (List.prefix_of_prefix_length_le hp
            (List.prefix_append (c :: rest) more) hlen)
        rw [if_neg hmark, if_neg hmore, ih hrest]

/-- A line without a comment is left as it is. -/
theorem cutComment_eq_self {line : List Char} (h : ¬ commentMark <:+: line) :
    cutComment line = line := by
  induction line with
  | nil => rfl
  | cons c rest ih =>
      rw [List.infix_cons_iff, not_or] at h
      rw [cutComment_cons, if_neg h.1, ih h.2]

/-! ## Clean lines -/

/-- A line that neither a comment nor blanks at its ends have a part in. -/
structure Clean (line : List Char) : Prop where
  no_line_feed : '\n' ∉ line
  no_comment : ¬ commentMark <:+: line
  trimmed : trim line = line

instance : DecidablePred Clean := fun line =>
  decidable_of_iff ('\n' ∉ line ∧ cutComment line = line ∧ trim line = line)
    ⟨fun h => ⟨h.1, h.2.1 ▸ commentMark_not_infix_cutComment line, h.2.2⟩,
      fun h => ⟨h.no_line_feed, cutComment_eq_self h.no_comment, h.trimmed⟩⟩

/-- A piece of a clean line is clean once it is trimmed. -/
theorem Clean.trim_of_infix {line piece : List Char} (h : Clean line)
    (hpiece : piece <:+: line) : Clean (trim piece) where
  no_line_feed hmem := h.no_line_feed (hpiece.subset (mem_of_mem_trim hmem))
  no_comment hmark :=
    h.no_comment ((hmark.trans (trim_isInfix piece)).trans hpiece)
  trimmed := trim_trim piece

/-- The significant part of a line of a text is clean. -/
theorem clean_significant {line : List Char} (h : '\n' ∉ line) :
    Clean (significant line) where
  no_line_feed hmem :=
    h ((cutComment_isPrefix line).subset (mem_of_mem_trim hmem))
  no_comment hmark :=
    commentMark_not_infix_cutComment line (hmark.trans (trim_isInfix _))
  trimmed := trim_trim _

/-- A clean line says all that stands in it. -/
theorem significant_eq_self {line : List Char} (h : Clean line) :
    significant line = line := by
  rw [significant, cutComment_eq_self h.no_comment, h.trimmed]

/-! ## Blanks around a line -/

section
variable {gap : List Char}

theorem ne_slash_of_isBlank {c : Char} (h : isBlank c = true) : c ≠ '/' := by
  rintro rfl
  exact absurd h (by decide)

/-- Cutting leaves blanks in front of a line alone. -/
theorem cutComment_append_of_blank (h : ∀ c ∈ gap, isBlank c = true)
    (line : List Char) : cutComment (gap ++ line) = gap ++ cutComment line := by
  induction gap with
  | nil => rfl
  | cons c gap ih =>
      have hc : c ≠ '/' := ne_slash_of_isBlank (h c List.mem_cons_self)
      have hfront : ¬ commentMark <:+: ([] : List Char) := by decide
      have hrest := cutComment_append_cons hfront hc (gap ++ line)
      rw [ih fun d hd => h d (List.mem_cons_of_mem _ hd)] at hrest
      exact hrest

/-- Blanks in front of a line say nothing. -/
theorem significant_append_of_blank_left (h : ∀ c ∈ gap, isBlank c = true)
    (line : List Char) : significant (gap ++ line) = significant line := by
  rw [significant, cutComment_append_of_blank h, trim_append_of_blank_left h]
  rfl

/-- Blanks behind a line make no difference, whether a comment follows them or the
    line ends.  Without any blanks it would: the line might end with a slash. -/
theorem significant_append_of_blank_right (h : ∀ c ∈ gap, isBlank c = true)
    (hne : gap ≠ []) (line : List Char) (stop : List Char)
    (hstop : cutComment stop = []) :
    significant (line ++ (gap ++ stop)) = significant line := by
  by_cases hmark : commentMark <:+: line
  · -- the comment of the line takes all of it along
    rw [significant, cutComment_append_of_mark hmark]
    rfl
  · cases gap with
    | nil => exact absurd rfl hne
    | cons c gap =>
        have hc : c ≠ '/' := ne_slash_of_isBlank (h c List.mem_cons_self)
        have hgap : cutComment (gap ++ stop) = gap := by
          rw [cutComment_append_of_blank fun d hd => h d (List.mem_cons_of_mem _ hd),
            hstop, List.append_nil]
        rw [List.cons_append, significant, cutComment_append_cons hmark hc, hgap,
          trim_append_of_blank_right h, significant, cutComment_eq_self hmark]

end

/-! ## The significant lines of a text -/

theorem significantLines_cons_of_nil {line : List Char}
    (h : significant line = []) (rest : List (List Char)) :
    significantLines (line :: rest) = significantLines rest := by
  rw [significantLines, List.map_cons, h]
  rfl

theorem significantLines_cons_of_ne {line : List Char}
    (h : significant line ≠ []) (rest : List (List Char)) :
    significantLines (line :: rest) =
      significant line :: significantLines rest := by
  rw [significantLines, List.map_cons]
  exact List.filter_cons_of_pos (decide_eq_true h)

/-- Rows of lines say one after the other what they say alone. -/
theorem significantLines_append (front rest : List (List Char)) :
    significantLines (front ++ rest) =
      significantLines front ++ significantLines rest := by
  rw [significantLines, List.map_append, List.filter_append]
  rfl

/-- Every significant line of a text is clean. -/
theorem clean_of_mem_significantLines {text line : List Char}
    (h : line ∈ significantLines (lines text)) : Clean line := by
  obtain ⟨hmem, -⟩ := List.mem_filter.mp h
  obtain ⟨raw, hraw, rfl⟩ := List.mem_map.mp hmem
  exact clean_significant (not_mem_of_mem_lines hraw)

end ContractRules.Text
