import ContractRules.Proofs.Parameter.Goals

/-! # Durations — no goal has to wait for what is not a time

    The engine takes the duration of a goal as it is, so nothing that is infinite,
    negative or not a number may get there.  What may is said by single bits
    (`Binary64.IsUsable`), so that it does not hang on how the fields of a number
    are taken apart where numbers are read.

    A duration comes from one of two places: a field that was absent gives zero, and
    a field that was there gives what its text spells.  Whatever number a text
    reads as, only a usable one becomes a span (`SpellsSpan.isUsable`).  A field that
    cannot be read leaves zero in its place, but then the load has something to
    report and there is no goal at all. -/

namespace ContractRules

namespace Binary64

variable {x : Binary64}

/-- A number is usable as a duration: its exponent bits are not all ones, and its
    sign bit is clear unless there is nothing but the sign. -/
structure IsUsable (x : Binary64) : Prop where
  finite : (x.bits >>> 52) &&& 0x7FF ≠ 0x7FF
  nonnegative : x.bits >>> 63 = 0 ∨ x.bits <<< 1 = 0

/-- A number is finite unless all bits of its exponent are set. -/
theorem isFinite_iff :
    x.isFinite = true ↔ (x.bits >>> 52) &&& 0x7FF ≠ 0x7FF := by
  have hlt : x.bits.toNat < 2 ^ 64 := x.bits.toNat_lt
  have hfield : ((x.bits >>> 52) &&& 0x7FF).toNat = x.bits.toNat / 2 ^ 52 % 2 ^ 11 := by
    rw [UInt64.toNat_and, UInt64.toNat_shiftRight,
      show (0x7FF : UInt64).toNat = 2 ^ 11 - 1 from rfl, Nat.and_two_pow_sub_one_eq_mod,
      Nat.shiftRight_eq_div_pow]
    rfl
  rw [isFinite, decide_eq_true_eq, ne_eq, ← UInt64.toNat_inj, hfield]
  show x.bits.toNat % 2 ^ 63 < 0x7FF * 2 ^ 52 ↔ ¬ _ = 0x7FF
  omega

/-- A number is not negative exactly if its highest bit is not set. -/
theorem isNegative_eq_false_iff : x.isNegative = false ↔ x.bits >>> 63 = 0 := by
  have hlt : x.bits.toNat < 2 ^ 64 := x.bits.toNat_lt
  have hsign : (x.bits >>> 63).toNat = x.bits.toNat / 2 ^ 63 := by
    rw [UInt64.toNat_shiftRight, Nat.shiftRight_eq_div_pow]
    rfl
  rw [isNegative, decide_eq_false_iff_not, ← UInt64.toNat_inj, hsign]
  show ¬ 2 ^ 63 ≤ x.bits.toNat ↔ _ = 0
  omega

/-- A number is zero exactly if no bit below the highest is set. -/
theorem isZero_iff : x.isZero = true ↔ x.bits <<< 1 = 0 := by
  have hlt : x.bits.toNat < 2 ^ 64 := x.bits.toNat_lt
  have hrest : (x.bits <<< 1).toNat = x.bits.toNat * 2 % 2 ^ 64 := by
    rw [UInt64.toNat_shiftLeft, Nat.shiftLeft_eq]
    rfl
  rw [isZero, beq_iff_eq, ← UInt64.toNat_inj, hrest]
  show x.bits.toNat % 2 ^ 63 = 0 ↔ _ = 0
  omega

/-- A usable number other than zero has its bits in between those of zero and those
    of infinity. -/
theorem IsUsable.bits_between (h : x.IsUsable) (hzero : x.isZero = false) :
    0 < x.bits ∧ x.bits < 0x7FF0000000000000 := by
  have hfinite : x.bits.toNat % 2 ^ 63 < 0x7FF * 2 ^ 52 :=
    decide_eq_true_eq.mp (isFinite_iff.mpr h.finite)
  have hnonnegative : ¬ 2 ^ 63 ≤ x.bits.toNat := by
    rcases h.nonnegative with hsign | hrest
    · exact decide_eq_false_iff_not.mp (isNegative_eq_false_iff.mpr hsign)
    · rw [← isZero_iff, hzero] at hrest
      cases hrest
  have hnonzero : x.bits.toNat % 2 ^ 63 ≠ 0 := beq_eq_false_iff_ne.mp hzero
  rw [UInt64.lt_iff_toNat_lt, UInt64.lt_iff_toNat_lt]
  show 0 < x.bits.toNat ∧ x.bits.toNat < 0x7FF0000000000000
  omega

end Binary64

/-! ## Where durations come from -/

/-- A text spells usable spans only, whatever number it is read as. -/
theorem SpellsSpan.isUsable {raw : String} {span : Seconds} (h : SpellsSpan raw span) :
    span.value.IsUsable where
  finite := Binary64.isFinite_iff.mp h.finite
  nonnegative := by
    rcases h.nonnegative with hzero | hsign
    · exact Or.inr (Binary64.isZero_iff.mp hzero)
    · exact Or.inl (Binary64.isNegative_eq_false_iff.mp hsign)

theorem Seconds.isUsable_unlimited : unlimited.value.IsUsable :=
  ⟨by decide, Or.inl rfl⟩

namespace Parameter

variable {block : Block}

/-- Whatever duration a block gives can be used. -/
theorem GivesDuration.isUsable {kind : Kind} {duration : Seconds}
    (h : GivesDuration block duration kind) : duration.value.IsUsable := by
  cases kind with
  | vesselGroup =>
      rw [GivesDuration, Block.Gives] at h
      cases hfirst : block.first? "duration" with
      | none =>
          rw [hfirst] at h
          rw [show duration = .unlimited from h]
          exact Seconds.isUsable_unlimited
      | some raw =>
          rw [hfirst] at h
          exact SpellsSpan.isUsable h
  | timer =>
      obtain ⟨raw, -, hlasting⟩ := h
      exact hlasting.toSpellsSpan.isUsable

/-- A goal takes as long as the field of the duration is worth. -/
theorem duration_generate_ofBlock (block : Block) (kind : Kind) (contract : String) :
    ((ofBlock block kind).generate contract).duration =
      ((durationField kind).worth block).value := by
  cases kind <;> rfl

/-- **The durations of goals can be used.**  They are finite and not negative, and
    those of timers are not zero. -/
theorem isUsable_duration_of_load (block : Block) (parameter : Parameter)
    (hload : (load block).run.value = .ok parameter) (contract : String) :
    (parameter.generate contract).duration.IsUsable ∧
      ((∃ wait, parameter = .timer wait) →
        0 < (parameter.generate contract).duration.bits ∧
          (parameter.generate contract).duration.bits < 0x7FF0000000000000) := by
  obtain ⟨kind, hdefined, rfl⟩ := load_eq_ok_iff.mp hload
  have hgives := hdefined.givesDuration
  rw [duration_generate_ofBlock]
  refine ⟨hgives.isUsable, ?_⟩
  rintro ⟨wait, hwait⟩
  cases kind with
  | vesselGroup => cases hwait
  | timer =>
      obtain ⟨raw, -, hlasting⟩ := hgives
      exact hlasting.toSpellsSpan.isUsable.bits_between hlasting.nonzero

/-- A group whose duration is a zero with a sign. -/
def unhurried : Block :=
  ⟨"PARAMETER", [("type", "VesselParameterGroup"), ("duration", "-0")]⟩

/-- A timer with a second duration, which is not read. -/
def fleeting : Block :=
  ⟨"PARAMETER", [("type", "Duration"), ("duration", " +.5e0"), ("duration", "inf")]⟩

/-- A group with a signed zero, and a timer that ignores its second duration. -/
theorem isUsable_duration_of_load_fleeting :
    (∃ parameter, (load unhurried).run.value = .ok parameter ∧
      (parameter.generate "c").duration = ⟨0x8000000000000000⟩ ∧
      (parameter.generate "c").duration.IsUsable) ∧
    ∃ wait, (load fleeting).run.value = .ok (.timer wait) ∧
      (generate "c" (.timer wait)).duration.bits = 0x3FE0000000000000 ∧
      (generate "c" (.timer wait)).duration.bits < 0x7FF0000000000000 := by
  have hunhurried : (load unhurried).run.value = .ok (ofBlock unhurried .vesselGroup) := rfl
  have hfleeting : (load fleeting).run.value = .ok (.timer (Timer.ofBlock fleeting)) := rfl
  obtain ⟨husable, -⟩ := isUsable_duration_of_load unhurried _ hunhurried "c"
  obtain ⟨-, hpositive⟩ := isUsable_duration_of_load fleeting _ hfleeting "c"
  exact ⟨⟨_, hunhurried, rfl, husable⟩, _, hfleeting, rfl, (hpositive ⟨_, rfl⟩).2⟩

end Parameter

end ContractRules
