import ContractRules.Field.Basic

/-! # Scalar fields — one value, the first one under the key

    A scalar field looks at the first value under its key and at nothing else in
    the block.  So what it reads is a function of that value, if there is one,
    and of its default.  A field of text reads every value, so it can fail only
    by being absent. -/

namespace ContractRules.Field

variable {α : Type} [Readable α]

/-- What a scalar field makes of its first value. -/
def ofFirst (name raw : String) : Except FieldFault α :=
  match Readable.read [raw] with
  | .ok value => .ok value
  | .error reason => .error (.unreadable name raw (Readable.kind α) reason)

theorem ofFirst_of_ok {name raw : String} {value : α}
    (h : Readable.read [raw] = .ok value) : ofFirst name raw = .ok value := by
  rw [ofFirst, h]

private theorem rawValues_eq (hkind : (Readable.kind α).takesAll = false)
    (field : Field α) (block : Block) :
    field.rawValues block = (block.first? field.name).toList := by
  rw [rawValues, if_neg (ne_true_of_eq_false hkind)]

/-- A required scalar field is missing, or it is what its first value reads
    as. -/
theorem read_required (hkind : (Readable.kind α).takesAll = false)
    (name : String) (block : Block) :
    (required name : Field α).read block =
      (block.first? name).elim (.error (.missing name)) (ofFirst name) := by
  rw [read, rawValues_eq hkind]
  cases hfirst : block.first? name with
  | none =>
      rw [show block.first? (required name : Field α).name = none from hfirst]
      rfl
  | some raw =>
      rw [show block.first? (required name : Field α).name = some raw from hfirst]
      rfl

/-- An optional scalar field is its default, or it is what its first value reads
    as. -/
theorem read_optional (hkind : (Readable.kind α).takesAll = false)
    (name : String) (default : α) (block : Block) :
    (optional name default).read block =
      (block.first? name).elim (.ok default) (ofFirst name) := by
  rw [read, rawValues_eq hkind]
  cases hfirst : block.first? name with
  | none =>
      rw [show block.first? (optional name default).name = none from hfirst]
      rfl
  | some raw =>
      rw [show block.first? (optional name default).name = some raw from hfirst]
      rfl

/-! ## Fields with a reader of their own -/

/-- What a scalar field makes of its first value if it brings a reader. -/
def ofReader (reader : Reader α) (name raw : String) : Except FieldFault α :=
  match reader [raw] with
  | .ok value => .ok value
  | .error reason => .error (.unreadable name raw (Readable.kind α) reason)

/-- A required field with a reader of its own reads its first value by that. -/
theorem read_required_withReader (hkind : (Readable.kind α).takesAll = false)
    (name : String) (reader : Reader α) (block : Block) :
    ((required name).withReader reader).read block =
      (block.first? name).elim (.error (.missing name)) (ofReader reader name) := by
  rw [read, rawValues_eq hkind]
  cases hfirst : block.first? name with
  | none =>
      rw [show block.first? ((required name).withReader reader).name = none from hfirst]
      rfl
  | some raw =>
      rw [show block.first? ((required name).withReader reader).name = some raw
        from hfirst]
      rfl

/-! ## Fields of text -/

/-- A required text is the first value, as it is written. -/
theorem read_required_text (name : String) (block : Block) :
    (required name : Field String).read block =
      (block.first? name).elim (.error (.missing name)) .ok := by
  rw [read_required rfl]
  rfl

theorem read_required_text? (name : String) (block : Block) :
    (required name : Field (Option String)).read block =
      (block.first? name).elim (.error (.missing name)) (.ok ∘ some) := by
  rw [read_required rfl]
  rfl

/-- An optional text is never at fault. -/
theorem read_optional_text (name default : String) (block : Block) :
    (optional name default).read block =
      .ok ((block.first? name).getD default) := by
  rw [read_optional rfl]
  cases block.first? name <;> rfl

/-- A text that may be absent is the first value, if there is one. -/
theorem read_optional_text? (name : String) (block : Block) :
    (optional name none : Field (Option String)).read block =
      .ok (block.first? name) := by
  rw [read_optional rfl]
  cases block.first? name <;> rfl

end ContractRules.Field
