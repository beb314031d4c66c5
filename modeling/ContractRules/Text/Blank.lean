/-!
# Blank text — the characters that trimming removes

Trimming removes every character with the `White_Space` property, not only the
ASCII ones: a no-break space or an ideographic space around a value is layout,
like a tab. The property has twenty-five characters in ten ranges.

Everything is defined on character lists; `String.trimmed` is the same function
on strings.
-/

namespace ContractRules.Text

/-- The ranges of code points with the `White_Space` property, ascending. -/
def blankRanges : List (Nat × Nat) :=
  [(0x0009, 0x000D), (0x0020, 0x0020), (0x0085, 0x0085), (0x00A0, 0x00A0),
   (0x1680, 0x1680), (0x2000, 0x200A), (0x2028, 0x2029), (0x202F, 0x202F),
   (0x205F, 0x205F), (0x3000, 0x3000)]

/-- Whether a character is blank, that is, has the `White_Space` property. -/
def isBlank (c : Char) : Bool :=
  blankRanges.any fun range => range.1 ≤ c.toNat && c.toNat ≤ range.2

/-- Drops the blanks at the start. -/
def trimStart (text : List Char) : List Char :=
  text.dropWhile isBlank

/-- Drops the blanks at the end. -/
def trimEnd (text : List Char) : List Char :=
  (text.reverse.dropWhile isBlank).reverse

/-- Drops the blanks at both ends; blanks between other characters stay. -/
def trim (text : List Char) : List Char :=
  trimEnd (trimStart text)

/-- Drops the blanks at both ends of a string. -/
def trimmed (text : String) : String :=
  String.ofList (trim text.toList)

/-- Every ASCII blank of the core library is blank here too. -/
theorem isBlank_of_isWhitespace {c : Char} (h : c.isWhitespace = true) :
    isBlank c = true := by
  simp only [Char.isWhitespace, Bool.or_eq_true, decide_eq_true_eq] at h
  rcases h with ((rfl | rfl) | rfl) | rfl <;> rfl

@[simp] theorem trim_nil : trim [] = [] := rfl

end ContractRules.Text
