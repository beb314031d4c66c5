import ContractRules.Proofs.Field.Written

/-! # Counts — which texts are read as counts, and which are written

    A count is read from a numeral, whatever zeros stand in front of it and whatever
    blanks around it, as long as its number fits 32 bits.  Every other text is
    refused, for one and the same reason.  What is written for a count is such a
    numeral, so it is read again (`read_count_iff_isNumeral`). -/

namespace ContractRules

open Text

/-- A text that spells no count is refused, always for the same reason. -/
theorem readCount_eq_error_iff {raw : String} {reason : ReadFault} :
    readCount raw = .error reason ↔
      reason = .notCount ∧ ∀ count, ¬ SpellsCount raw count := by
  constructor
  · intro h
    refine ⟨eq_notCount_of_readCount h, ?_⟩
    intro count hcount
    rw [readCount_eq_ok_iff.mpr hcount] at h
    cases h
  · rintro ⟨rfl, hnone⟩
    cases hread : readCount raw with
    | ok count => exact absurd (readCount_eq_ok_iff.mp hread) (hnone count)
    | error reason => rw [eq_notCount_of_readCount hread]

/-- A number that fits 32 bits is that of a count. -/
private theorem exists_toNat_eq_iff {number : Nat} :
    (∃ count : UInt32, count.toNat = number) ↔ number ≤ 4294967295 := by
  constructor
  · rintro ⟨count, rfl⟩
    exact Nat.le_of_lt_succ count.toNat_lt
  · intro hle
    exact ⟨UInt32.ofNat number, UInt32.toNat_ofNat_of_lt' (Nat.lt_succ_of_le hle)⟩

/-- What is added under a new key comes first there. -/
theorem Block.first?_add_of_has_eq_false {block : Block} {key : String}
    (h : block.has key = false) (value : String) :
    (block.add key value).first? key = some value := by
  have hnone : block.all key = [] := by
    rwa [has, first?_eq_head?, Option.isSome_eq_false_iff, Option.isNone_iff_eq_none,
      List.head?_eq_none_iff] at h
  rw [first?_eq_head?, all_add, hnone, if_pos rfl]
  rfl

/-- **A count is read from its numerals, and from nothing else.**  Of the values under
    a key the first one counts: it gives a number if it is a numeral for it, blanks
    around it aside, and the number fits 32 bits; otherwise it is no count.  So a count
    that is written under a new key is read from there. -/
theorem read_count_iff_isNumeral (first : String) (rest : List String) :
    (∀ number : Nat,
        (∃ count : UInt32, Readable.read (first :: rest) = .ok count ∧
            count.toNat = number) ↔
          IsNumeral (trim first.toList) number ∧ number ≤ 4294967295) ∧
      (∀ reason : ReadFault,
        (Readable.read (first :: rest) : Except ReadFault UInt32) = .error reason ↔
          reason = .notCount ∧
            ∀ number ≤ 4294967295, ¬ IsNumeral (trim first.toList) number) ∧
      ∀ (block : Block) (key : String) (count : UInt32), block.has key = false →
        (Field.required key).read (block.add key (countText count)) = .ok count := by
  -- the values behind the first are not looked at
  have hread : (Readable.read (first :: rest) : Except ReadFault UInt32) =
      readCount first := rfl
  refine ⟨?_, ?_, ?_⟩
  · intro number
    simp only [hread, readCount_eq_ok_iff, spellsCount_iff_isNumeral,
      ← exists_toNat_eq_iff]
    constructor
    · rintro ⟨count, hnumeral, rfl⟩
      exact ⟨hnumeral, count, rfl⟩
    · rintro ⟨hnumeral, count, rfl⟩
      exact ⟨count, hnumeral, rfl⟩
  · intro reason
    simp only [hread, readCount_eq_error_iff, spellsCount_iff_isNumeral,
      ← exists_toNat_eq_iff, forall_exists_index, forall_apply_eq_imp_iff]
  · intro block key count hnew
    rw [Field.read_required rfl, Block.first?_add_of_has_eq_false hnew, Option.elim_some,
      Field.ofFirst_countText]

/-- Zeros in front and blanks around, the least number that does not fit, and a sign;
    and what is written for the greatest count. -/
theorem read_count_iff_isNumeral_bounds :
    IsNumeral (trim "\u00a00000000000004294967295 ".toList) 4294967295 ∧
      (Readable.read ["\t4294967296", "1"] : Except ReadFault UInt32) = .error .notCount ∧
      (∀ number ≤ 4294967295, ¬ IsNumeral (trim "+3".toList) number) ∧
      (Block.mk "STATE" [("minCount", "1")]).has "maxCount" = false ∧
      (Field.required "maxCount").read
        ((Block.mk "STATE" [("minCount", "1")]).add "maxCount" (countText 4294967295)) =
          .ok (4294967295 : UInt32) := by
  obtain ⟨hpadded, -, -⟩ := read_count_iff_isNumeral "\u00a00000000000004294967295 " []
  obtain ⟨-, hlarge, -⟩ := read_count_iff_isNumeral "\t4294967296" ["1"]
  obtain ⟨-, hsigned, hwritten⟩ := read_count_iff_isNumeral "+3" []
  have hrefused : (Readable.read ["+3"] : Except ReadFault UInt32) = .error .notCount := rfl
  have hnew : (Block.mk "STATE" [("minCount", "1")]).has "maxCount" = false := rfl
  obtain ⟨hnumeral, -⟩ := (hpadded 4294967295).mp ⟨4294967295, rfl, rfl⟩
  refine ⟨hnumeral, ?_, ((hsigned _).mp hrefused).2, hnew, hwritten _ _ _ hnew⟩
  refine (hlarge _).mpr ⟨rfl, ?_⟩
  intro number hle h
  have hvalue : 4294967296 = number := h.digitsValue_eq
  omega

end ContractRules
