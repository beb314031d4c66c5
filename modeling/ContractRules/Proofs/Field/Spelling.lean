import ContractRules.Proofs.Field.Scalar
import ContractRules.Proofs.Text.Numeral

/-! # Spellings — which texts are flags and which are counts

    A flag is a word and a count is a row of digits.  What a text has to be in
    order to spell a value is said here without the readers (`SpellsFlag`,
    `SpellsCount`).  The readers agree with it, and each has one reason only to
    refuse a text, so that nothing else can be wrong with a value (`SpeltBy`).

    From there a scalar field is a matter of its first value: it gives a value if
    that is spelt, or if the value is the default and nothing is there
    (`Block.Gives`). -/

namespace ContractRules

open Text

/-- A text spells a flag: blanks around it aside, it is the word of the flag in
    any case. -/
def SpellsFlag (raw : String) (flag : Bool) : Prop :=
  (trim raw.toList).map Char.toLower = (flagText flag).toList

instance (raw : String) (flag : Bool) : Decidable (SpellsFlag raw flag) :=
  inferInstanceAs (Decidable (_ = _))

/-- A text spells a count: blanks around it aside, it is a row of digits, and the
    count is what they say in decimal. -/
structure SpellsCount (raw : String) (count : UInt32) : Prop where
  nonempty : trim raw.toList ≠ []
  digits : ∀ c ∈ trim raw.toList, c.isDigit = true
  value : digitsValue (trim raw.toList) = count.toNat

/-- A text spells the counts that it is a numeral for, blanks around it aside. -/
theorem spellsCount_iff_isNumeral {raw : String} {count : UInt32} :
    SpellsCount raw count ↔ IsNumeral (trim raw.toList) count.toNat := by
  constructor
  · intro h
    rw [← h.value]
    exact isNumeral_digitsValue h.nonempty h.digits
  · intro h
    exact ⟨h.ne_nil, h.isDigit, h.digitsValue_eq⟩

/-- A row of digits spells a count exactly if its number fits 32 bits. -/
theorem exists_spellsCount_iff {raw : String} :
    (∃ count, SpellsCount raw count) ↔
      trim raw.toList ≠ [] ∧ (trim raw.toList).all Char.isDigit = true ∧
        digitsValue (trim raw.toList) < UInt32.size := by
  rw [List.all_eq_true]
  constructor
  · rintro ⟨count, hcount⟩
    refine ⟨hcount.nonempty, hcount.digits, ?_⟩
    rw [hcount.value]
    exact count.toNat_lt_size
  · rintro ⟨hne, hdigits, hlt⟩
    exact ⟨UInt32.ofNat (digitsValue (trim raw.toList)), hne, hdigits,
      (UInt32.toNat_ofNat_of_lt' hlt).symm⟩

instance (raw : String) : Decidable (∃ count, SpellsCount raw count) :=
  decidable_of_iff' _ exists_spellsCount_iff

/-! ## What the readers accept -/

private theorem ofList_eq_flagText_iff {word : List Char} {flag : Bool} :
    String.ofList word = flagText flag ↔ word = (flagText flag).toList := by
  rw [← String.ofList_inj, String.ofList_toList]

/-- The reader of truth values reads what is spelt. -/
theorem readFlag_eq_ok_iff {raw : String} {flag : Bool} :
    readFlag raw = .ok flag ↔ SpellsFlag raw flag := by
  rw [SpellsFlag, ← ofList_eq_flagText_iff, readFlag]
  generalize String.ofList ((trim raw.toList).map Char.toLower) = word
  by_cases htrue : word = "true"
  · rw [htrue, if_pos rfl]
    cases flag with
    | false => exact iff_of_false nofun (by decide)
    | true => exact iff_of_true rfl rfl
  by_cases hfalse : word = "false"
  · rw [hfalse, if_neg (by decide), if_pos rfl]
    cases flag with
    | false => exact iff_of_true rfl rfl
    | true => exact iff_of_false nofun (by decide)
  · rw [if_neg htrue, if_neg hfalse]
    cases flag with
    | false => exact iff_of_false nofun hfalse
    | true => exact iff_of_false nofun htrue

theorem eq_notFlag_of_readFlag {raw : String} {reason : ReadFault}
    (h : readFlag raw = .error reason) : reason = .notFlag := by
  rw [readFlag] at h
  split at h
  · cases h
  split at h
  · cases h
  · exact (Except.error.inj h).symm

/-- A row of digits is read as its value, if there is room for that. -/
theorem readUInt32?_eq_some_iff {text : List Char} {count : UInt32} :
    readUInt32? text = some count ↔
      (text ≠ [] ∧ text.all Char.isDigit = true) ∧
        digitsValue text = count.toNat := by
  rw [readUInt32?, readNumeral?]
  by_cases hrow : text ≠ [] ∧ text.all Char.isDigit = true
  · rw [if_pos hrow]
    refine Iff.trans ?_ (and_iff_right hrow).symm
    show (if digitsValue text < UInt32.size then _ else _) = some count ↔ _
    -- below the size the conversion keeps the value, above it no count has it
    by_cases hlt : digitsValue text < UInt32.size
    · rw [if_pos hlt, Option.some_inj, ← UInt32.toNat_inj,
        UInt32.toNat_ofNat_of_lt' hlt]
    · rw [if_neg hlt]
      refine iff_of_false nofun ?_
      intro hvalue
      exact hlt (hvalue ▸ count.toNat_lt_size)
  · rw [if_neg hrow]
    exact iff_of_false nofun fun h => hrow h.1

/-- The reader of counts reads what is spelt. -/
theorem readCount_eq_ok_iff {raw : String} {count : UInt32} :
    readCount raw = .ok count ↔ SpellsCount raw count := by
  have hread : readCount raw = .ok count ↔
      readUInt32? (trim raw.toList) = some count := by
    rw [readCount]
    cases readUInt32? (trim raw.toList) with
    | none => exact iff_of_false nofun nofun
    | some found => rw [Except.ok.injEq, Option.some_inj]
  rw [hread, readUInt32?_eq_some_iff, List.all_eq_true]
  constructor
  · rintro ⟨⟨hne, hdigits⟩, hvalue⟩
    exact ⟨hne, hdigits, hvalue⟩
  · rintro ⟨hne, hdigits, hvalue⟩
    exact ⟨⟨hne, hdigits⟩, hvalue⟩

theorem eq_notCount_of_readCount {raw : String} {reason : ReadFault}
    (h : readCount raw = .error reason) : reason = .notCount := by
  rw [readCount] at h
  split at h
  · cases h
  · exact (Except.error.inj h).symm

/-! ## Scalar fields -/

/-- The values of a scalar type are spelt in a certain way: the reader accepts
    what spells a value, and it has one reason to refuse everything else. -/
structure SpeltBy (α : Type) [Readable α] (Spells : String → α → Prop)
    (reason : ReadFault) : Prop where
  scalar : (Readable.kind α).takesAll = false
  read_eq_ok_iff : ∀ raw value, Readable.read [raw] = .ok value ↔ Spells raw value
  eq_reason : ∀ raw fault, (Readable.read [raw] : Except ReadFault α) = .error fault →
    fault = reason

theorem speltBy_flag : SpeltBy Bool SpellsFlag .notFlag :=
  ⟨rfl, fun _ _ => readFlag_eq_ok_iff, fun _ _ => eq_notFlag_of_readFlag⟩

theorem speltBy_count : SpeltBy UInt32 SpellsCount .notCount :=
  ⟨rfl, fun _ _ => readCount_eq_ok_iff, fun _ _ => eq_notCount_of_readCount⟩

/-- What a block gives under a key: the default if nothing is there, and
    otherwise what the first value spells. -/
def Block.Gives {α : Type} (Spells : String → α → Prop) (block : Block)
    (key : String) (default value : α) : Prop :=
  match block.first? key with
  | none => value = default
  | some raw => Spells raw value

namespace SpeltBy

variable {α : Type} [Readable α] {Spells : String → α → Prop} {reason : ReadFault}

/-- A field gives the value that its first text spells. -/
theorem ofFirst_eq_ok_iff (h : SpeltBy α Spells reason) {key raw : String}
    {value : α} : Field.ofFirst key raw = .ok value ↔ Spells raw value := by
  rw [← h.read_eq_ok_iff, Field.ofFirst]
  cases (Readable.read [raw] : Except ReadFault α) with
  | ok found =>
      show Except.ok found = Except.ok value ↔ _
      rw [Except.ok.injEq, Except.ok.injEq]
  | error fault =>
      constructor
      · intro h
        cases h
      · intro h
        cases h

/-- A text that spells no value is refused, with the reason of its kind. -/
theorem ofFirst_eq_error (h : SpeltBy α Spells reason) {key raw : String}
    (hraw : ¬ ∃ value, Spells raw value) :
    (Field.ofFirst key raw : Except FieldFault α) =
      .error (.unreadable key raw (Readable.kind α) reason) := by
  rw [Field.ofFirst]
  cases hread : (Readable.read [raw] : Except ReadFault α) with
  | ok value => exact absurd ⟨value, (h.read_eq_ok_iff raw value).mp hread⟩ hraw
  | error fault => rw [h.eq_reason raw fault hread]

/-- An optional field reads what the block gives, or its default. -/
theorem read_optional_eq_ok_iff (h : SpeltBy α Spells reason) {block : Block}
    {key : String} {default value : α} :
    (Field.optional key default).read block = .ok value ↔
      block.Gives Spells key default value := by
  rw [Field.read_optional h.scalar, Block.Gives]
  cases block.first? key with
  | none =>
      rw [Option.elim_none, Except.ok.injEq]
      exact eq_comm
  | some raw => exact h.ofFirst_eq_ok_iff

/-- A required field reads what its first value spells. -/
theorem read_required_eq_ok_iff (h : SpeltBy α Spells reason) {block : Block}
    {key : String} {value : α} :
    (Field.required key).read block = .ok value ↔
      ∃ raw, block.first? key = some raw ∧ Spells raw value := by
  rw [Field.read_required h.scalar]
  cases block.first? key with
  | none => exact iff_of_false nofun nofun
  | some raw =>
      rw [Option.elim_some, h.ofFirst_eq_ok_iff]
      simp

/-- A value that is read where it has to be there is what the block gives,
    whatever the default. -/
theorem gives_of_read_required (h : SpeltBy α Spells reason) {block : Block}
    {key : String} {value : α} (hread : (Field.required key).read block = .ok value)
    (default : α) : block.Gives Spells key default value := by
  obtain ⟨raw, hfirst, hspells⟩ := h.read_required_eq_ok_iff.mp hread
  rw [Block.Gives, hfirst]
  exact hspells

/-- A block gives at most one value under a key. -/
theorem gives_unique (h : SpeltBy α Spells reason) {block : Block} {key : String}
    {default value other : α} (hvalue : block.Gives Spells key default value)
    (hother : block.Gives Spells key default other) : value = other := by
  rw [← h.read_optional_eq_ok_iff] at hvalue hother
  exact Except.ok.inj (hvalue.symm.trans hother)

end SpeltBy

end ContractRules
