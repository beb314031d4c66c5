import ContractRules.Text.Line
import Mathlib.Data.List.DropRight
import Mathlib.Data.List.TakeWhile

/-! # Splitting — texts cut at a character

    A text that is cut at the first of a character falls into what stands in front
    of it and what begins with it.  The lines of a text are cut at every line
    feed, so whole lines in front of a text come first among its lines
    (`lines_append`), and a text can be cut off behind any of its lines
    (`lines_firstLines`). -/

namespace ContractRules.Text

/-! ## At the first of a character -/

section
variable {c : Char} {front : List Char}

private theorem bne_of_mem (h : c ∉ front) {d : Char} (hd : d ∈ front) :
    (d != c) = true :=
  bne_iff_ne.mpr fun he => h (he ▸ hd)

theorem takeWhile_of_not_mem (h : c ∉ front) : front.takeWhile (· != c) = front :=
  List.takeWhile_eq_self_iff.mpr fun _ hd => bne_of_mem h hd

theorem dropWhile_of_not_mem (h : c ∉ front) : front.dropWhile (· != c) = [] :=
  List.dropWhile_eq_nil_iff.mpr fun _ hd => bne_of_mem h hd

theorem takeWhile_append_cons (h : c ∉ front) (rest : List Char) :
    (front ++ c :: rest).takeWhile (· != c) = front := by
  rw [List.takeWhile_append_of_pos fun _ hd => bne_of_mem h hd,
    List.takeWhile_cons_of_neg (by simp), List.append_nil]

theorem dropWhile_append_cons (h : c ∉ front) (rest : List Char) :
    (front ++ c :: rest).dropWhile (· != c) = c :: rest := by
  rw [List.dropWhile_append_of_pos fun _ hd => bne_of_mem h hd,
    List.dropWhile_cons_of_neg (by simp)]

end

/-! ## At every line feed -/

theorem consChar_ne_nil (c : Char) (rows : List (List Char)) :
    consChar c rows ≠ [] := by
  cases rows with
  | nil =>
      rw [consChar]
      split <;> exact List.cons_ne_nil _ _
  | cons row rows =>
      rw [consChar]
      split <;> exact List.cons_ne_nil _ _

theorem consChar_feed (rows : List (List Char)) : consChar '\n' rows = [] :: rows := by
  cases rows <;> rfl

/-- One more character goes to the first line, if there is one. -/
theorem consChar_append {rows : List (List Char)} (h : rows ≠ []) (c : Char)
    (more : List (List Char)) : consChar c (rows ++ more) = consChar c rows ++ more := by
  cases rows with
  | nil => exact absurd rfl h
  | cons row rows =>
      rw [List.cons_append, consChar, consChar]
      split <;> rfl

/-- The lines of whole lines and of what stands behind them. -/
theorem lines_append {front : List Char}
    (h : front = [] ∨ front.getLast? = some '\n') (rest : List Char) :
    lines (front ++ rest) = lines front ++ lines rest := by
  induction front with
  | nil => rfl
  | cons c front ih =>
      have hlast : (c :: front).getLast? = some '\n' := h.resolve_left nofun
      cases front with
      | nil =>
          obtain rfl : c = '\n' := Option.some.inj hlast
          exact lines_append_line List.not_mem_nil rest
      | cons d front =>
          rw [List.getLast?_cons_cons] at hlast
          rw [List.cons_append, lines_cons, ih (Or.inr hlast), lines_cons c,
            lines_cons d, consChar_append (consChar_ne_nil d (lines front))]

/-- What stands behind the last line feed is one more line, unless it is empty. -/
theorem lines_eq_singleton {line : List Char} (h : '\n' ∉ line) (hne : line ≠ []) :
    lines line = [line] := by
  induction line with
  | nil => exact absurd rfl hne
  | cons c rest ih =>
      rw [List.mem_cons, not_or] at h
      have hc : c ≠ '\n' := Ne.symm h.1
      cases rest with
      | nil => rw [lines_cons, lines_nil, consChar, if_neg hc]
      | cons d rest =>
          rw [lines_cons, ih h.2 (List.cons_ne_nil d rest), consChar, if_neg hc]

/-- A text is some whole lines and what stands behind the last line feed. -/
theorem exists_lastLine (text : List Char) :
    ∃ front line, text = front ++ line ∧
      (front = [] ∨ front.getLast? = some '\n') ∧ '\n' ∉ line := by
  refine ⟨text.rdropWhile (· != '\n'), text.rtakeWhile (· != '\n'),
    List.rdropWhile_append_rtakeWhile.symm, ?_, ?_⟩
  · by_cases hfront : text.rdropWhile (· != '\n') = []
    · exact Or.inl hfront
    · have hlast := List.rdropWhile_last_not (· != '\n') text hfront
      rw [bne_iff_ne, not_not] at hlast
      exact Or.inr (List.getLast?_eq_some_getLast hfront ▸ congrArg some hlast)
  · intro hmem
    have hne : ('\n' != '\n') = true :=
      List.mem_rtakeWhile_imp (p := (· != '\n')) hmem
    exact bne_iff_ne.mp hne rfl

/-! ## Some of the lines -/

/-- A text up to the end of its line of this number, counted from one. -/
def firstLines : Nat → List Char → List Char
  | 0, _ => []
  | _ + 1, [] => []
  | count + 1, c :: rest =>
    c :: if c = '\n' then firstLines count rest else firstLines (count + 1) rest

/-- The lines of a text that is cut off behind a line. -/
theorem lines_firstLines (count : Nat) (text : List Char) :
    lines (firstLines count text) = (lines text).take count := by
  induction text generalizing count with
  | nil => cases count <;> rfl
  | cons c rest ih =>
      cases count with
      | zero => rfl
      | succ count =>
          rw [firstLines, lines_cons, lines_cons]
          by_cases hc : c = '\n'
          · rw [if_pos hc, ih, hc, consChar_feed, consChar_feed]
            rfl
          · rw [if_neg hc, ih]
            cases lines rest with
            | nil =>
                rw [List.take_nil, consChar, if_neg hc, List.take_succ_cons,
                  List.take_nil]
            | cons row rows =>
                rw [List.take_succ_cons, consChar, consChar, if_neg hc, if_neg hc]
                rfl

end ContractRules.Text
