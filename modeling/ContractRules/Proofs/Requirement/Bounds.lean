import ContractRules.Proofs.Requirement.Faults

/-! # Bounds — which requirements have their counts in order

    A definition and saved state describe a requirement in the same words, except
    for the counts.  Where a block gives both counts the two readings agree but
    for one thing: only a definition is asked whether the counts are in order
    (`load_eq_ok_iff_restore`).

    So a requirement that is loaded has its counts in order, and one that is
    restored has them in order if the block does (`counts_ordered_of_read`). -/

namespace ContractRules

open Reading

/-- A default does not matter to a field that is there. -/
theorem Field.read_optional_eq_read_required {α : Type} [Readable α]
    (hkind : (Readable.kind α).takesAll = false) {block : Block} {name : String}
    (h : block.has name = true) (default : α) :
    (optional name default).read block = (required name).read block := by
  obtain ⟨raw, hfirst⟩ := Option.isSome_iff_exists.mp h
  rw [read_optional hkind, read_required hkind, hfirst]
  rfl

namespace Requirement

/-- **Loading is restoring in order.**  A block that gives both counts loads as a
    requirement exactly if it is restored as that requirement and the counts are
    in order. -/
theorem load_eq_ok_iff_restore (registry : Registry) (block : Block)
    (hleast : block.has "minCount" = true) (hgreatest : block.has "maxCount" = true)
    (requirement : Requirement) :
    (load registry block).run.value = .ok requirement ↔
      (restore registry block).run.value = .ok requirement ∧
        requirement.least ≤ requirement.greatest := by
  -- with both counts given, no default stands in for either
  have hleastRead := Field.read_optional_eq_read_required rfl hleast (1 : UInt32)
  have hgreatestRead :=
    Field.read_optional_eq_read_required rfl hgreatest unbounded
  rw [load_eq_ok_iff, restore_eq_ok_iff]
  constructor
  · rintro ⟨hdescribed, hl, hg, hordered⟩
    rw [hleastRead] at hl
    rw [hgreatestRead] at hg
    exact ⟨⟨hdescribed, hl, hg⟩, hordered⟩
  · rintro ⟨⟨hdescribed, hl, hg⟩, hordered⟩
    rw [← hleastRead] at hl
    rw [← hgreatestRead] at hg
    exact ⟨hdescribed, hl, hg, hordered⟩

/-- A block with untidy fields that gives both counts. -/
def untidy : Block :=
  ⟨"REQUIREMENT", [("maxCount", "\t0012"), ("type", "AcceptContract"),
    ("checkOnActiveContract", "False"), ("minCount", "12 "), ("minCount", "none"),
    ("name", ""), ("tag", ""), ("contractType", "?")]⟩

/-- What the untidy block requires. -/
def tidied : Requirement :=
  ⟨⟨"", "AcceptContract", false, false, none⟩, .accept, .tag "", 12, 12⟩

/-- A block with untidy and repeated fields. -/
theorem load_eq_ok_iff_restore_untidy :
    untidy.has "minCount" = true ∧ untidy.has "maxCount" = true ∧
      (load .empty untidy).run.value = .ok tidied ∧
      (restore .empty untidy).run.value = .ok tidied ∧
      tidied.least ≤ tidied.greatest := by
  have hload : (load .empty untidy).run.value = .ok tidied := rfl
  exact ⟨rfl, rfl, hload, (load_eq_ok_iff_restore .empty untidy rfl rfl tidied).mp hload⟩

/-! ## Which requirements are in order -/

/-- A requirement that is loaded by kind has its counts in order. -/
theorem least_le_greatest_of_loadAs {registry : Registry} {kind : Kind}
    {block : Block} {requirement : Requirement}
    (h : (loadAs registry kind block).run.value = .ok requirement) :
    requirement.least ≤ requirement.greatest := by
  rw [loadAs_eq_ok_iff, (does_reading registry kind block).conclude_eq_ok_iff,
    Option.map_eq_some_iff, Journal.all_isHarmless_iff, problems_loadSteps,
    List.append_eq_nil_iff] at h
  obtain ⟨⟨target, -, rfl⟩, -, hcrossed⟩ := h
  by_contra hnot
  rw [if_neg hnot] at hcrossed
  cases hcrossed

/-- A requirement that is resumed has the counts that its block holds. -/
theorem read_counts_of_resume {registry : Registry} {kind : Kind} {base : Base}
    {block : Block} {requirement : Requirement}
    (h : (resume registry kind base block).run.value = .ok requirement) :
    (Field.required "minCount").read block = .ok requirement.least ∧
      (Field.required "maxCount").read block = .ok requirement.greatest := by
  rw [resume, (does_stateReading registry kind base block).conclude_eq_ok_iff,
    Option.map_eq_some_iff] at h
  obtain ⟨⟨target, -, rfl⟩, hsteps⟩ := h
  simp only [stateSteps, List.all_append, Bool.and_eq_true] at hsteps
  obtain ⟨hleast, hgreatest, -, -⟩ := hsteps
  exact ⟨Field.read_eq_ok_iff.mpr ⟨hleast, rfl⟩,
    Field.read_eq_ok_iff.mpr ⟨hgreatest, rfl⟩⟩

/-- Counts that had to be there are in order exactly if those of the block are. -/
theorem least_le_greatest_iff {block : Block} {least greatest : UInt32}
    (hleast : (Field.required "minCount").read block = .ok least)
    (hgreatest : (Field.required "maxCount").read block = .ok greatest) :
    least ≤ greatest ↔ CountsOrdered block :=
  (countsOrdered_iff_of_gives (speltBy_count.gives_of_read_required hleast 1)
    (speltBy_count.gives_of_read_required hgreatest unbounded)).symm

/-- **Where the counts of a requirement can be crossed.**  Whatever is loaded has
    its counts in order.  What is restored or resumed takes them as they are: its
    counts are in order exactly if those of the block are. -/
theorem counts_ordered_of_read (registry : Registry) (block : Block)
    (requirement : Requirement) :
    ((load registry block).run.value = .ok requirement →
        requirement.least ≤ requirement.greatest) ∧
      (∀ kind, (loadAs registry kind block).run.value = .ok requirement →
        requirement.least ≤ requirement.greatest) ∧
      ((restore registry block).run.value = .ok requirement →
        (requirement.least ≤ requirement.greatest ↔ CountsOrdered block)) ∧
      ∀ kind base, (resume registry kind base block).run.value = .ok requirement →
        (requirement.least ≤ requirement.greatest ↔ CountsOrdered block) := by
  refine ⟨?_, ?_, ?_, ?_⟩
  · intro hload
    exact (load_eq_ok_iff.mp hload).ordered
  · intro kind hload
    exact least_le_greatest_of_loadAs hload
  · intro hrestore
    have hsaved := restore_eq_ok_iff.mp hrestore
    exact least_le_greatest_iff hsaved.least hsaved.greatest
  · intro kind base hresume
    obtain ⟨hleast, hgreatest⟩ := read_counts_of_resume hresume
    exact least_le_greatest_iff hleast hgreatest

/-- Saved state with crossed counts. -/
def crossed : Block :=
  ⟨"REQUIREMENT", [("type", "CompleteContract"), ("tag", "rescue"),
    ("minCount", "5"), ("maxCount", "2")]⟩

/-- What is restored from it: a requirement that no count of contracts meets. -/
def unmeetable : Requirement :=
  ⟨.ofKind "CompleteContract", .complete, .tag "rescue", 5, 2⟩

/-- A requirement loaded with its counts in order, and one restored with its counts
    crossed. -/
theorem counts_ordered_of_read_crossed :
    (load .empty untidy).run.value = .ok tidied ∧ tidied.least ≤ tidied.greatest ∧
      (restore .empty crossed).run.value = .ok unmeetable ∧
      ¬ CountsOrdered crossed := by
  obtain ⟨hload, -, -, -⟩ := counts_ordered_of_read .empty untidy tidied
  obtain ⟨-, -, hrestore, -⟩ := counts_ordered_of_read .empty crossed unmeetable
  refine ⟨rfl, hload rfl, rfl, ?_⟩
  rw [← hrestore rfl]
  decide

/-- A requirement with crossed counts is restored without a complaint. -/
theorem exists_restore_crossed :
    ∃ requirement, (restore .empty crossed).run.value = .ok requirement ∧
      ¬ requirement.least ≤ requirement.greatest :=
  ⟨unmeetable, rfl, by decide⟩

end Requirement

end ContractRules
