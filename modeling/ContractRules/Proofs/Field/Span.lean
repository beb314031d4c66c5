import ContractRules.Parameter.Load
import ContractRules.Proofs.Field.Faults

/-! # Spans — which texts are durations

    A text spells a span if it is a number, and a finite one that is not negative
    (`SpellsSpan`).  Reading a span is as simple as reading a count: there is one
    reason to refuse a text, whatever is wrong with the number (`speltBy_span`).

    Where a span has to last it must be there and must not be zero
    (`SpellsLasting`).  This can go wrong in three ways, which exclude each other,
    and the reason tells the last two apart (`Block.lastingFault?`). -/

namespace ContractRules

/-- A text spells a span: blanks around it aside, it is a number, which is finite
    and not negative. -/
structure SpellsSpan (raw : String) (span : Seconds) : Prop where
  number : Binary64.ofText? (Text.trim raw.toList) = some span.value
  finite : span.value.isFinite = true
  nonnegative : span.value.isZero = true ∨ span.value.isNegative = false

/-- A text spells a span that lasts: it is a span other than zero. -/
structure SpellsLasting (raw : String) (span : Seconds) : Prop
    extends SpellsSpan raw span where
  nonzero : span.value.isZero = false

/-- A text is read as the time span that it spells. -/
theorem Seconds.ofText?_eq_some_iff {raw : String} {span : Seconds} :
    ofText? raw.toList = some span ↔ SpellsSpan raw span := by
  rw [ofText?, Option.bind_eq_bind, Option.bind_eq_some_iff]
  constructor
  · rintro ⟨number, hnumber, hspan⟩
    rw [ofBinary64?] at hspan
    split at hspan
    next hrange =>
      obtain rfl : (⟨number⟩ : Seconds) = span := Option.some.inj hspan
      exact ⟨hnumber, hrange.1, hrange.2.imp_right Bool.eq_false_iff.mpr⟩
    · cases hspan
  · intro h
    have hrange := And.intro h.finite (h.nonnegative.imp_right Bool.eq_false_iff.mp)
    exact ⟨span.value, h.number, if_pos hrange⟩

/-- A text spells a time span exactly if it can be read as one. -/
theorem exists_spellsSpan_iff {raw : String} :
    (∃ span, SpellsSpan raw span) ↔ (Seconds.ofText? raw.toList).isSome = true := by
  simp only [Option.isSome_iff_exists, Seconds.ofText?_eq_some_iff]

instance (raw : String) : Decidable (∃ span, SpellsSpan raw span) :=
  decidable_of_iff' _ exists_spellsSpan_iff

/-- It spells a lasting one exactly if what is read is not zero. -/
theorem exists_spellsLasting_iff {raw : String} :
    (∃ span, SpellsLasting raw span) ↔
      ∃ span ∈ Seconds.ofText? raw.toList, span.value.isZero = false := by
  simp only [Option.mem_def, Seconds.ofText?_eq_some_iff]
  exact exists_congr fun span => ⟨fun h => ⟨h.1, h.2⟩, fun h => ⟨h.1, h.2⟩⟩

instance (raw : String) : Decidable (∃ span, SpellsLasting raw span) :=
  decidable_of_iff' _ exists_spellsLasting_iff

/-! ## What the readers accept -/

/-- The reader of spans reads what is spelt. -/
theorem readSpan_eq_ok_iff {raw : String} {span : Seconds} :
    readSpan raw = .ok span ↔ SpellsSpan raw span := by
  rw [← Seconds.ofText?_eq_some_iff, readSpan]
  cases Seconds.ofText? raw.toList with
  | none => exact iff_of_false nofun nofun
  | some found => rw [Except.ok.injEq, Option.some_inj]

theorem eq_notSpan_of_readSpan {raw : String} {reason : ReadFault}
    (h : readSpan raw = .error reason) : reason = .notSpan := by
  rw [readSpan] at h
  split at h
  · cases h
  · exact (Except.error.inj h).symm

theorem speltBy_span : SpeltBy Seconds SpellsSpan .notSpan :=
  ⟨rfl, fun _ _ => readSpan_eq_ok_iff, fun _ _ => eq_notSpan_of_readSpan⟩

/-- A span is asked whether it lasts once it is read. -/
theorem readLasting_of_ok {raw : List String} {span : Seconds}
    (h : (Readable.read raw : Except ReadFault Seconds) = .ok span) :
    readLasting raw = if span.isUnlimited
      then .error (.custom "duration must be greater than zero") else .ok span := by
  rw [readLasting, h]
  show ite _ _ _ = _
  split <;> rfl

/-- What is no time span at all is refused for that. -/
theorem readLasting_of_error {raw : List String} {reason : ReadFault}
    (h : (Readable.read raw : Except ReadFault Seconds) = .error reason) :
    readLasting raw = .error reason := by
  rw [readLasting, h]
  rfl

section Lasting

variable {raw : String} {span : Seconds}

theorem readLasting_of_not_spells (h : ¬ ∃ span, SpellsSpan raw span) :
    readLasting [raw] = .error .notSpan := by
  cases hread : (Readable.read [raw] : Except ReadFault Seconds) with
  | ok span => exact absurd ⟨span, readSpan_eq_ok_iff.mp hread⟩ h
  | error reason => rw [readLasting_of_error hread, eq_notSpan_of_readSpan hread]

/-- A time span of zero is refused in words of its own. -/
theorem readLasting_of_zero (h : SpellsSpan raw span) (hzero : span.value.isZero = true) :
    readLasting [raw] = .error (.custom "duration must be greater than zero") :=
  (readLasting_of_ok ((speltBy_span.read_eq_ok_iff _ _).mpr h)).trans (if_pos hzero)

theorem readLasting_of_spells (h : SpellsLasting raw span) :
    readLasting [raw] = .ok span :=
  (readLasting_of_ok ((speltBy_span.read_eq_ok_iff _ _).mpr h.toSpellsSpan)).trans
    (if_neg (ne_true_of_eq_false h.nonzero))

/-- The reader of lasting spans reads what is spelt. -/
theorem readLasting_eq_ok_iff :
    readLasting [raw] = .ok span ↔ SpellsLasting raw span := by
  refine ⟨fun h => ?_, readLasting_of_spells⟩
  by_cases hspan : ∃ found, SpellsSpan raw found
  · obtain ⟨found, hfound⟩ := hspan
    cases hzero : found.value.isZero with
    | true =>
        rw [readLasting_of_zero hfound hzero] at h
        cases h
    | false =>
        rw [readLasting_of_spells ⟨hfound, hzero⟩] at h
        obtain rfl := Except.ok.inj h
        exact ⟨hfound, hzero⟩
  · rw [readLasting_of_not_spells hspan] at h
    cases h

/-- A text spells one span at most. -/
theorem SpellsLasting.unique {other : Seconds} (h : SpellsLasting raw span)
    (hother : SpellsLasting raw other) : span = other :=
  Except.ok.inj ((readLasting_of_spells h).symm.trans (readLasting_of_spells hother))

/-- A text that spells zero spells no other span besides. -/
theorem not_spellsLasting_of_zero (h : SpellsSpan raw span)
    (hzero : span.value.isZero = true) : ¬ ∃ other, SpellsLasting raw other := by
  rintro ⟨other, hother⟩
  have hread := readLasting_of_spells hother
  rw [readLasting_of_zero h hzero] at hread
  cases hread

end Lasting

/-! ## Fields of spans -/

namespace Block

/-- The fault of a time span that a block can leave out. -/
def spanFault? : Block → String → Option Problem :=
  misspelt? .span .notSpan fun raw => ∃ span, SpellsSpan raw span

/-- The fault of a span that does not last. -/
def endlessFault? : Block → String → Option Problem :=
  misspelt? .span (.custom "duration must be greater than zero") fun raw =>
    ∃ span, SpellsLasting raw span

/-- The fault of a span that a block has to have and that has to last. -/
def lastingFault? (block : Block) (key : String) : Option Problem :=
  (block.missing? key).or ((block.spanFault? key).or (block.endlessFault? key))

end Block

namespace Field

/-- A field for a span that has to be there and has to last. -/
def lasting (key : String) : Field Seconds := (required key).withReader readLasting

variable {block : Block} {key : String} {span : Seconds}

theorem ofReader_readLasting_eq_ok_iff {raw : String} :
    ofReader readLasting key raw = .ok span ↔ SpellsLasting raw span := by
  rw [← readLasting_eq_ok_iff, ofReader]
  cases readLasting [raw] with
  | ok found => rw [Except.ok.injEq, Except.ok.injEq]
  | error reason => exact iff_of_false nofun nofun

/-- A lasting field gives the span that its first value spells. -/
theorem read_lasting_eq_ok_iff :
    (lasting key).read block = .ok span ↔
      ∃ raw, block.first? key = some raw ∧ SpellsLasting raw span := by
  rw [lasting, read_required_withReader rfl]
  cases block.first? key with
  | none => exact iff_of_false nofun nofun
  | some raw =>
      rw [Option.elim_some, ofReader_readLasting_eq_ok_iff]
      simp

/-- An optional time span can only be misspelt. -/
theorem problems_optional_span (block : Block) (key : String) (default : Seconds) :
    Journal.problems ((optional key default).steps block) =
      (block.spanFault? key).toList :=
  speltBy_span.problems_optional block key default

/-- A span that has to last is read if it does, and otherwise its fault is
    reported. -/
theorem problems_lasting (block : Block) (key : String) :
    Journal.problems ((lasting key).steps block) = (block.lastingFault? key).toList := by
  rw [steps, lasting, read_required_withReader rfl, Block.lastingFault?,
    Block.missing?, Block.has]
  cases hfirst : block.first? key with
  | none => rfl
  | some raw =>
      rw [Option.elim_some, ofReader, Option.isSome_some, if_pos rfl, Option.none_or,
        Block.spanFault?, Block.endlessFault?, Block.misspelt?_of_first? hfirst,
        Block.misspelt?_of_first? hfirst]
      -- what is no span is never asked whether it lasts, so the faults do not meet
      by_cases hspan : ∃ span, SpellsSpan raw span
      · obtain ⟨span, hspells⟩ := hspan
        rw [if_pos ⟨span, hspells⟩]
        cases hzero : span.value.isZero with
        | true =>
            rw [readLasting_of_zero hspells hzero,
              if_neg (not_spellsLasting_of_zero hspells hzero)]
            rfl
        | false =>
            rw [readLasting_of_spells ⟨hspells, hzero⟩,
              if_pos ⟨span, hspells, hzero⟩]
            rfl
      · rw [readLasting_of_not_spells hspan, if_neg hspan]
        rfl

end Field

end ContractRules
