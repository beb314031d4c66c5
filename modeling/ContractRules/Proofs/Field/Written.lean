import ContractRules.Proofs.Field.Spelling
import ContractRules.Proofs.Text.Significant

/-! # Written values — flags and counts across a session

    Saved state writes flags as words and counts as digits.  Neither holds a
    blank, so nothing is trimmed when they are read, and each reads as the value
    that was written (`readFlag_flagText`, `readCount_countText`).  Neither holds
    a comment or a line feed either, so both survive on a line of text. -/

namespace ContractRules

open Text

/-! ## Flags -/

theorem clean_flagText (flag : Bool) : Clean (flagText flag).toList := by
  cases flag with
  | false => exact ⟨by decide, by decide, rfl⟩
  | true => exact ⟨by decide, by decide, rfl⟩

/-- A written flag reads back. -/
theorem readFlag_flagText (flag : Bool) : readFlag (flagText flag) = .ok flag := by
  cases flag <;> rfl

/-- A truth value that was written is read again. -/
theorem Field.ofFirst_flagText (name : String) (flag : Bool) :
    ofFirst name (flagText flag) = .ok flag := by
  have hread : Readable.read [flagText flag] = readFlag (flagText flag) := rfl
  exact ofFirst_of_ok (hread.trans (readFlag_flagText flag))

/-! ## Counts -/

/-- Every character of a written count is a digit. -/
theorem isDigit_of_mem_countText {count : UInt32} {c : Char}
    (h : c ∈ (countText count).toList) : c.isDigit = true :=
  isDigit_of_mem_toString h

theorem isBlank_of_isDigit {c : Char} (h : c.isDigit = true) :
    isBlank c = false := by
  obtain ⟨hlow, hhigh⟩ : 48 ≤ c.toNat ∧ c.toNat ≤ 57 := Char.isDigit_iff_toNat.mp h
  exact isBlank_of_visible (by omega) (by omega)

theorem clean_countText (count : UInt32) : Clean (countText count).toList where
  no_line_feed hmem := absurd (isDigit_of_mem_countText hmem) (by decide)
  no_comment hmark :=
    absurd (isDigit_of_mem_countText (hmark.subset List.mem_cons_self)) (by decide)
  trimmed := trim_eq_self_of_not_blank fun _ hmem =>
    isBlank_of_isDigit (isDigit_of_mem_countText hmem)

/-- A written count spells itself. -/
theorem spellsCount_countText (count : UInt32) :
    SpellsCount (countText count) count := by
  rw [spellsCount_iff_isNumeral, (clean_countText count).trimmed]
  exact isNumeral_toString count.toNat

/-- A written count reads back. -/
theorem readCount_countText (count : UInt32) :
    readCount (countText count) = .ok count :=
  readCount_eq_ok_iff.mpr (spellsCount_countText count)

/-- A count that was written is read again. -/
theorem Field.ofFirst_countText (name : String) (count : UInt32) :
    ofFirst name (countText count) = .ok count := by
  have hread : Readable.read [countText count] = readCount (countText count) := rfl
  exact ofFirst_of_ok (hread.trans (readCount_countText count))

end ContractRules
