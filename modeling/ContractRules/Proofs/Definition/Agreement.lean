import ContractRules.Parameter.Load
import ContractRules.Proofs.Block.Agreement
import ContractRules.Proofs.Field.Scalar
import ContractRules.Requirement.Session

/-! # Agreement — what a definition is read from, and nothing else

    A field looks at a block under its own name only, so it reads alike from blocks
    that agree there (`Alike.field_eq`).  From there every reading of a definition
    is followed line by line: it is the same reading of alike blocks, as a function
    of the journal, and so it comes to the same end and tells the same events.

    One field is read under a condition.  A tag keeps the contract type from being
    looked at, so the keys that count for a requirement depend on whether it has a
    tag (`Requirement.keysRead`). -/

namespace ContractRules

/-! ## Fields -/

namespace Block.Alike

variable {α : Type} [Readable α] {scalars lists : List String} {block other : Block}

/-- A scalar field reads alike from blocks that agree on its first value. -/
theorem field_eq (h : block.Alike scalars lists other)
    (hkind : (Readable.kind α).takesAll = false) {field : Field α}
    (hmem : field.name ∈ scalars) :
    Reading.field field other = Reading.field field block := by
  have hraw : field.rawValues other = field.rawValues block := by
    rw [Field.rawValues, Field.rawValues, if_neg (ne_true_of_eq_false hkind),
      if_neg (ne_true_of_eq_false hkind), h.first field.name hmem]
  rw [Reading.field, Reading.field, Field.read, Field.read, hraw]

/-- A list reads alike from blocks that agree on all its values. -/
theorem field_list_eq (h : block.Alike scalars lists other)
    (hkind : (Readable.kind α).takesAll = true) {field : Field α}
    (hmem : field.name ∈ lists) :
    Reading.field field other = Reading.field field block := by
  have hraw : field.rawValues other = field.rawValues block := by
    rw [Field.rawValues, Field.rawValues, if_pos hkind, if_pos hkind,
      h.all field.name hmem]
  rw [Reading.field, Reading.field, Field.read, Field.read, hraw]

end Block.Alike

/-- A text that may be absent is read without a journal. -/
theorem Reading.field_optional_text? (name : String) (block : Block) :
    Reading.field (.optional name none : Field (Option String)) block =
      pure (block.first? name) := by
  funext journal
  exact Reading.run_field_of_ok (Field.read_optional_text? name block) journal

/-- Readings in a row agree line by line. -/
theorem Reading.bind_eq {α β : Type} {first other : Reading α}
    {next follow : α → Reading β} (hfirst : first = other)
    (hnext : ∀ value, next value = follow value) :
    first >>= next = other >>= follow := by
  rw [hfirst]
  exact bind_congr hnext

open Reading (bind_eq)

/-! ## Identities -/

namespace Identity

variable {scalars lists : List String} {block other : Block}

/-- Blocks that agree on the two keys have the same identity, and lack the same. -/
theorem load_eq (h : block.Alike scalars lists other) (hkind : kindField ∈ scalars)
    (hname : "name" ∈ scalars) : load other = load block := by
  refine bind_eq (h.field_eq rfl hkind) fun kind => ?_
  exact bind_eq (h.field_eq rfl hname) fun _ => rfl

/-- Blocks that agree on their kind are of the same one, known or not. -/
theorem knownKind_eq {κ : Type} (ofName? : String → Option κ)
    (unknown : String → Problem) (h : block.Alike scalars lists other)
    (hkind : kindField ∈ scalars) :
    knownKind ofName? unknown other = knownKind ofName? unknown block :=
  bind_eq (h.field_eq rfl hkind) fun _ => rfl

end Identity

/-! ## Requirements -/

namespace Requirement

/-- The keys that every requirement is read from. -/
def scalarKeys : List String :=
  ["type", "name", "title", "invertRequirement", "checkOnActiveContract", "tag",
    "minCount", "maxCount"]

/-- The keys that a requirement is read from: without a tag, the contract type is
    one of them. -/
def keysRead (block : Block) : List String :=
  scalarKeys ++ if block.has "tag" then [] else [Problem.typeField]

variable {block other : Block}

/-- A single value is read alike from blocks that agree on the keys of a requirement.
    -/
theorem field_eq {α : Type} [Readable α] (h : block.Alike (keysRead block) [] other)
    (hkind : (Readable.kind α).takesAll = false) {field : Field α}
    (hmem : field.name ∈ scalarKeys) :
    Reading.field field other = Reading.field field block :=
  h.field_eq hkind (List.mem_append_left _ hmem)

theorem identity_eq (h : block.Alike (keysRead block) [] other) :
    Identity.load other = Identity.load block :=
  Identity.load_eq h (List.mem_append_left _ (by decide))
    (List.mem_append_left _ (by decide))

/-- Agreeing blocks give the same base when it is loaded. -/
theorem Base.load_eq (h : block.Alike (keysRead block) [] other) :
    Base.load other = Base.load block := by
  refine bind_eq (identity_eq h) fun identity => ?_
  refine bind_eq (field_eq h rfl (by decide)) fun inverted => ?_
  refine bind_eq (field_eq h rfl (by decide)) fun checkedWhileActive => ?_
  exact bind_eq (field_eq h rfl (by decide)) fun _ => rfl

theorem Base.restore_eq (h : block.Alike (keysRead block) [] other) :
    Base.restore other = Base.restore block := by
  refine bind_eq (identity_eq h) fun identity => ?_
  refine bind_eq (field_eq h rfl (by decide)) fun inverted => ?_
  exact bind_eq (field_eq h rfl (by decide)) fun _ => rfl

/-- Only without a tag is the contract type looked at, and then it counts. -/
theorem target_eq (registry : Registry) (h : block.Alike (keysRead block) [] other) :
    Target.load registry other (block.first? "tag") =
      Target.load registry block (block.first? "tag") := by
  cases htag : block.first? "tag" with
  | some name => rfl
  | none =>
      have hmem : Problem.typeField ∈ keysRead block := by
        rw [keysRead, Block.has, htag]
        exact List.mem_append_right _ (List.mem_singleton_self _)
      exact bind_eq (h.field_eq rfl hmem) fun _ => rfl

/-- They are read as the same requirement, with the same faults. -/
theorem reading_eq (registry : Registry) (kind : Kind)
    (h : block.Alike (keysRead block) [] other) :
    reading registry kind other = reading registry kind block := by
  have htag := h.first "tag" (List.mem_append_left _ (by decide))
  refine bind_eq (Base.load_eq h) fun base => ?_
  -- the tag is read for certain, so the target is that of the block's own tag
  rw [Reading.field_optional_text?, Reading.field_optional_text?, pure_bind, pure_bind,
    htag]
  refine bind_eq (target_eq registry h) fun target? => ?_
  refine bind_eq (field_eq h rfl (by decide)) fun least => ?_
  exact bind_eq (field_eq h rfl (by decide)) fun _ => rfl

theorem stateReading_eq (registry : Registry) (kind : Kind) (base : Base)
    (h : block.Alike (keysRead block) [] other) :
    stateReading registry kind base other = stateReading registry kind base block := by
  have htag := h.first "tag" (List.mem_append_left _ (by decide))
  refine bind_eq (field_eq h rfl (by decide)) fun least => ?_
  refine bind_eq (field_eq h rfl (by decide)) fun greatest => ?_
  refine bind_eq (field_eq h rfl (by decide)) fun checkedWhileActive => ?_
  rw [htag]
  exact bind_eq (target_eq registry h) fun _ => rfl

/-- A requirement is loaded alike from agreeing blocks. -/
theorem load_eq (registry : Registry) (h : block.Alike (keysRead block) [] other) :
    load registry other = load registry block := by
  have hkind : knownKind other = knownKind block :=
    Identity.knownKind_eq _ _ h (List.mem_append_left _ (by decide))
  rw [load, load, hkind, h.name]
  refine bind_congr fun kind => ?_
  rw [loadAs, loadAs, reading_eq registry kind h]

/-- A requirement is restored alike from agreeing blocks. -/
theorem restore_eq (registry : Registry) (h : block.Alike (keysRead block) [] other) :
    restore registry other = restore registry block := by
  have hsaved : savedKind other = savedKind block :=
    bind_eq (Base.restore_eq h) fun _ => rfl
  rw [restore, restore, hsaved, h.name]
  refine bind_congr fun (base, kind) => ?_
  show resume registry kind base other = resume registry kind base block
  rw [resume, resume, stateReading_eq registry kind base h]

end Requirement

/-! ## Parameters -/

namespace Parameter

/-- The keys that a parameter is read from by their first value. -/
def scalarKeys : List String :=
  ["type", "name", "title", "optional", "hidden", "completeInSequence", "duration",
    "define", "preWaitText", "waitingText", "completionText"]

/-- The keys that a parameter is read from by all their values. -/
def listKeys : List String := ["vessel"]

variable {block other : Block}

/-- Agreeing blocks give the same base of a parameter. -/
theorem Base.load_eq (h : block.Alike scalarKeys listKeys other) :
    Base.load other = Base.load block := by
  refine bind_eq (Identity.load_eq h (by decide) (by decide)) fun identity => ?_
  refine bind_eq (h.field_eq rfl (by decide)) fun title? => ?_
  refine bind_eq (h.field_eq rfl (by decide)) fun optional => ?_
  refine bind_eq (h.field_eq rfl (by decide)) fun hidden => ?_
  exact bind_eq (h.field_eq rfl (by decide)) fun inSequence => rfl

theorem vesselGroup_eq (h : block.Alike scalarKeys listKeys other) :
    VesselGroup.reading other = VesselGroup.reading block := by
  refine bind_eq (Base.load_eq h) fun base => ?_
  refine bind_eq (h.field_eq rfl (by decide)) fun duration => ?_
  refine bind_eq (h.field_eq rfl (by decide)) fun define? => ?_
  exact bind_eq (h.field_list_eq rfl (by decide)) fun _ => rfl

theorem timer_eq (h : block.Alike scalarKeys listKeys other) :
    Timer.reading other = Timer.reading block := by
  refine bind_eq (Base.load_eq h) fun base => ?_
  refine bind_eq (h.field_eq rfl (by decide)) fun duration => ?_
  refine bind_eq (h.field_eq rfl (by decide)) fun preWaitText? => ?_
  refine bind_eq (h.field_eq rfl (by decide)) fun waitingText? => ?_
  exact bind_eq (h.field_eq rfl (by decide)) fun _ => rfl

/-- A parameter is loaded alike from agreeing blocks. -/
theorem load_eq (h : block.Alike scalarKeys listKeys other) :
    load other = load block := by
  have hkind : knownKind other = knownKind block :=
    Identity.knownKind_eq _ _ h (by decide)
  rw [load, load, hkind, h.name]
  refine bind_congr fun kind => ?_
  cases kind with
  | vesselGroup => rw [loadAs, loadAs, VesselGroup.load, VesselGroup.load, vesselGroup_eq h]
  | timer => rw [loadAs, loadAs, Timer.load, Timer.load, timer_eq h]

end Parameter

/-! ## Definitions -/

/-- **Nothing else matters to a load.**  Blocks that agree on the keys that are read
    are loaded and restored alike: with the same definition or the same failure,
    and with the same events.  And blocks agree there if they come from one another
    by edits: entries under other keys, later values of scalar keys, entries with
    different keys in another order. -/
theorem load_eq_of_alike (registry : Registry) (block : Block) :
    (∀ other, block.Alike (Requirement.keysRead block) [] other →
      Requirement.load registry other = Requirement.load registry block ∧
        Requirement.restore registry other = Requirement.restore registry block) ∧
      (∀ other, block.Alike Parameter.scalarKeys Parameter.listKeys other →
        Parameter.load other = Parameter.load block) ∧
      ∀ scalars lists other, Relation.EqvGen (Block.Edit scalars lists) block other →
        block.Alike scalars lists other := by
  refine ⟨?_, ?_, ?_⟩
  · intro other h
    exact ⟨Requirement.load_eq registry h, Requirement.restore_eq registry h⟩
  · intro other h
    exact Parameter.load_eq h
  · intro scalars lists other h
    exact Block.alike_of_eqvGen h

/-- A definition that fails: one count is misspelt. -/
def terse : Block :=
  ⟨"REQUIREMENT", [("type", "AcceptContract"), ("tag", "rescue"), ("minCount", "few")]⟩

/-- The same definition with a contract type beside the tag. -/
def wordy : Block :=
  ⟨"REQUIREMENT", [("type", "AcceptContract"), ("tag", "rescue"), ("minCount", "few"),
    ("contractType", "Nobody")]⟩

/-- A group of two vessels. -/
def pair : Block :=
  ⟨"PARAMETER", [("type", "VesselParameterGroup"), ("vessel", "B"), ("vessel", "A"),
    ("duration", "soon")]⟩

/-- The same group, in another order and with more words. -/
def jumbled : Block :=
  ⟨"PARAMETER", [("vessel", "B"), ("duration", "soon"), ("Vessel", "C"),
    ("duration", "5"), ("vessel", "A"), ("type", "VesselParameterGroup")]⟩

/-- A block with much to say that nobody reads, and a pair of values in another order.
    -/
theorem load_eq_of_alike_wordy :
    Relation.EqvGen (Block.Edit (Requirement.keysRead terse) []) terse wordy ∧
      (Requirement.load .empty wordy = Requirement.load .empty terse ∧
        Requirement.restore .empty wordy = Requirement.restore .empty terse) ∧
      pair.Alike Parameter.scalarKeys Parameter.listKeys jumbled ∧
      Parameter.load jumbled = Parameter.load pair := by
  have hedit : Relation.EqvGen (Block.Edit (Requirement.keysRead terse) []) terse wordy := by
    refine .rel _ _ ?_
    show Block.Edit _ _ ⟨terse.name, terse.entries ++ []⟩
      ⟨terse.name, terse.entries ++ ("contractType", "Nobody") :: []⟩
    exact .unread (by decide) (by decide)
  have halike : pair.Alike Parameter.scalarKeys Parameter.listKeys jumbled :=
    ⟨rfl, by decide, by decide⟩
  obtain ⟨hrequirement, -, hedits⟩ := load_eq_of_alike .empty terse
  obtain ⟨-, hparameter, -⟩ := load_eq_of_alike .empty pair
  exact ⟨hedit, hrequirement wordy (hedits _ _ _ hedit), halike, hparameter jumbled halike⟩

end ContractRules
