import ContractRules.Text.Blank

/-!
# Lines — what a reader of line-based text looks at

A line ends at a line feed, and a last line needs none. A carriage return in
front of the line feed stays on its line: it is blank, so it goes when the line
is trimmed, and both kinds of line ending read alike.

The **significant** part of a line is what is left of it when the comment is cut
off and the blanks around the rest are gone.
-/

namespace ContractRules.Text

/-- Puts one more character in front of a text that is already split. -/
def consChar (c : Char) : List (List Char) → List (List Char)
  | [] => if c = '\n' then [[]] else [[c]]
  | line :: rest => if c = '\n' then [] :: line :: rest else (c :: line) :: rest

/-- The lines of a text, without their line feeds. -/
def lines (text : List Char) : List (List Char) :=
  text.foldr consChar []

/-- Cuts a line at its first `//`. -/
def cutComment : List Char → List Char
  | '/' :: '/' :: _ => []
  | c :: rest => c :: cutComment rest
  | [] => []

/-- What a line says once its comment and the blanks around it are gone. -/
def significant (line : List Char) : List Char :=
  trim (cutComment line)

@[simp] theorem lines_nil : lines [] = [] := rfl

@[simp] theorem lines_cons (c : Char) (text : List Char) :
    lines (c :: text) = consChar c (lines text) := rfl

/-- A line feed ends the line in front of it. -/
theorem lines_append_line {line : List Char} (h : '\n' ∉ line) (rest : List Char) :
    lines (line ++ '\n' :: rest) = line :: lines rest := by
  induction line with
  | nil =>
    show consChar '\n' (lines rest) = _
    cases lines rest <;> rfl
  | cons c line ih =>
    rw [List.mem_cons, not_or] at h
    rw [List.cons_append, lines_cons, ih h.2, consChar, if_neg (Ne.symm h.1)]

end ContractRules.Text
