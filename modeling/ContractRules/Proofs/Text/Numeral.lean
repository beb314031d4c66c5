import ContractRules.Text.Numeral
import Mathlib.Data.List.Induction

/-! # Numerals — rows of digits, and the numbers that they spell

    A numeral is built digit by digit, and with each of them the number before it
    counts ten times (`IsNumeral`).  There is no sign in it and no other kind of
    digit, and zeros in front are digits like the others.  A row of digits is a
    numeral for its value and for no other number.

    Numbers are written as numerals.  So nothing but digits is written for a number
    (`isDigit_of_mem_toString`), and no two numbers are written alike
    (`toString_inj`). -/

namespace ContractRules.Text

/-- A row of digits is a numeral for the number that it spells in decimal. -/
inductive IsNumeral : List Char → Nat → Prop where
  | digit {digit : Nat} (h : digit < 10) : IsNumeral [digit.digitChar] digit
  | more {row : List Char} {number digit : Nat} (hrow : IsNumeral row number)
      (h : digit < 10) : IsNumeral (row ++ [digit.digitChar]) (10 * number + digit)

private theorem isDigit_digitChar {digit : Nat} (h : digit < 10) :
    digit.digitChar.isDigit = true := by
  rw [Nat.isDigit_digitChar, decide_eq_true_eq]
  exact h

private theorem exists_eq_digitChar {c : Char} (h : c.isDigit = true) :
    ∃ digit < 10, c = digit.digitChar := by
  obtain ⟨hlow, hhigh⟩ : 48 ≤ c.toNat ∧ c.toNat ≤ 57 := Char.isDigit_iff_toNat.mp h
  refine ⟨c.toNat - 48, by omega, ?_⟩
  rw [← Char.toNat_inj, Nat.toNat_digitChar_of_lt_ten (by omega)]
  omega

private theorem digitsValue_append_digit {row : List Char} {digit : Nat} (h : digit < 10) :
    digitsValue (row ++ [digit.digitChar]) = 10 * digitsValue row + digit := by
  rw [digitsValue, digitsValue, Nat.ofDigitChars_append, Nat.ofDigitChars_cons,
    Nat.ofDigitChars_nil, Nat.toNat_digitChar_of_lt_ten h]
  show 10 * _ + (48 + digit - 48) = _
  omega

theorem IsNumeral.ne_nil {row : List Char} {number : Nat} (h : IsNumeral row number) :
    row ≠ [] := by
  cases h with
  | digit _ => exact List.cons_ne_nil _ _
  | more _ _ => exact List.append_ne_nil_of_right_ne_nil _ (List.cons_ne_nil _ _)

theorem IsNumeral.isDigit {row : List Char} {number : Nat} (h : IsNumeral row number) :
    ∀ c ∈ row, c.isDigit = true := by
  induction h with
  | digit hdigit =>
      intro c hmem
      rw [List.mem_singleton.mp hmem]
      exact isDigit_digitChar hdigit
  | more _ hdigit ih =>
      intro c hmem
      rcases List.mem_append.mp hmem with hrow | hlast
      · exact ih c hrow
      · rw [List.mem_singleton.mp hlast]
        exact isDigit_digitChar hdigit

/-- A numeral denotes the value of its digits. -/
theorem IsNumeral.digitsValue_eq {row : List Char} {number : Nat}
    (h : IsNumeral row number) : digitsValue row = number := by
  induction h with
  | digit hdigit =>
      rw [← List.nil_append [_], digitsValue_append_digit hdigit]
      exact Nat.zero_add _
  | more _ hdigit ih => rw [digitsValue_append_digit hdigit, ih]

/-- A row of digits that is not empty is a numeral for its value. -/
theorem isNumeral_digitsValue {row : List Char} (hne : row ≠ [])
    (hdigits : ∀ c ∈ row, c.isDigit = true) : IsNumeral row (digitsValue row) := by
  induction row using List.reverseRecOn with
  | nil => exact absurd rfl hne
  | append_singleton row c ih =>
      obtain ⟨digit, hdigit, rfl⟩ :=
        exists_eq_digitChar (hdigits c (List.mem_append_right _ (List.mem_singleton_self c)))
      rw [digitsValue_append_digit hdigit]
      by_cases hrow : row = []
      · subst hrow
        show IsNumeral [_] (0 + digit)
        rw [Nat.zero_add]
        exact .digit hdigit
      · refine .more (ih hrow ?_) hdigit
        intro d hmem
        exact hdigits d (List.mem_append_left _ hmem)

/-! ## Written numbers -/

theorem toList_toString (number : Nat) :
    (toString number).toList = Nat.toDigits 10 number := by
  rw [Nat.toString_eq_ofList_toDigits, String.toList_ofList]

/-- A number is written in digits. -/
theorem isDigit_of_mem_toString {number : Nat} {c : Char}
    (h : c ∈ (toString number).toList) : c.isDigit = true := by
  rw [toList_toString] at h
  exact Nat.isDigit_of_mem_toDigits (by decide) (by decide) h

theorem not_mem_toString {c : Char} (h : c.isDigit = false) (number : Nat) :
    c ∉ (toString number).toList := by
  intro hmem
  rw [isDigit_of_mem_toString hmem] at h
  cases h

/-- The digits that are written for a number have it as their value. -/
theorem digitsValue_toString (number : Nat) :
    digitsValue (toString number).toList = number := by
  rw [digitsValue, toList_toString, Nat.ofDigitChars_ten_toDigits]

/-- What is written for a number is a numeral for it. -/
theorem isNumeral_toString (number : Nat) : IsNumeral (toString number).toList number := by
  have hne : (toString number).toList ≠ [] := by
    rw [toList_toString]
    exact Nat.toDigits_ne_nil
  have hnumeral := isNumeral_digitsValue hne fun _ => isDigit_of_mem_toString
  rwa [digitsValue_toString] at hnumeral

/-- Numbers that are written alike are the same. -/
theorem toString_inj {number other : Nat} (h : toString number = toString other) :
    number = other := by
  calc
    number = digitsValue (toString number).toList := (digitsValue_toString number).symm
    _ = digitsValue (toString other).toList := by rw [h]
    _ = other := digitsValue_toString other

end ContractRules.Text
