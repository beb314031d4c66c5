import ContractRules.Requirement.Check
import ContractRules.Proofs.Field.Spelling
import ContractRules.Proofs.Registry.Meaning
import ContractRules.Proofs.Requirement.Description

/-! # Evaluation — the engine's answer is what the definition says

    What a block asks of the contracts is said here without loading it: which of
    them it counts (`Block.CountsState`, `Block.SpeaksOf`), how many those are
    (`Block.tally`, a number without bound), and when it is fulfilled
    (`Block.IsFulfilled`).

    A requirement that is loaded from the block answers just so.  It counts the
    same contracts, and stopping the count at the largest bound changes nothing:
    no least count lies beyond it, and as a greatest count it stands for none
    (`Requirement.isMet_iff`).  Contracts enter the answer only by their number,
    so neither their order nor contracts of other kinds matter. -/

namespace ContractRules

/-! ## What a block asks for -/

namespace Block

/-- Whether a block counts contracts in these states: completed ones, or accepted
    ones, which are active or completed. -/
def CountsState (block : Block) (state : Lifecycle) : Prop :=
  block.first? "type" = some "CompleteContract" ∧ state.completed = true ∨
    block.first? "type" = some "AcceptContract" ∧
      (state.active = true ∨ state.completed = true)

instance (block : Block) (state : Lifecycle) : Decidable (block.CountsState state) :=
  inferInstanceAs (Decidable (_ ∨ _))

/-- Whether a block speaks of a contract: it carries the tag of the block or,
    without one, the name that goes with the contract type. -/
def SpeaksOf (registry : Registry) (block : Block) (record : ContractRecord) : Prop :=
  (∃ tag ∈ block.first? "tag", tag ∈ record.tags) ∨
    block.first? "tag" = none ∧
      ∃ identifier ∈ block.first? "contractType",
        registry.Names identifier record.typeName

instance (registry : Registry) (block : Block) (record : ContractRecord) :
    Decidable (block.SpeaksOf registry record) :=
  inferInstanceAs (Decidable (_ ∨ _))

/-- Whether a block counts a contract. -/
def Counts (registry : Registry) (block : Block) (record : ContractRecord) : Prop :=
  block.CountsState record.state ∧ block.SpeaksOf registry record

instance (registry : Registry) (block : Block) (record : ContractRecord) :
    Decidable (block.Counts registry record) :=
  inferInstanceAs (Decidable (_ ∧ _))

/-- How many contracts a block counts. -/
def tally (registry : Registry) (block : Block) (records : List ContractRecord) : Nat :=
  records.countP fun record => block.Counts registry record

/-- Whether the contracts fulfil what a block asks for: the block leaves the time
    aside in which its parent is active, or the tally lies within its bounds,
    which is what an inverted block does not want. -/
def IsFulfilled (registry : Registry) (block : Block)
    (records : List ContractRecord) (parentActive : Bool) : Prop :=
  ∃ least greatest inverted checkedWhileActive,
    block.Gives SpellsCount "minCount" 1 least ∧
      block.Gives SpellsCount "maxCount" 4294967295 greatest ∧
      block.Gives SpellsFlag "invertRequirement" false inverted ∧
      block.Gives SpellsFlag "checkOnActiveContract" true checkedWhileActive ∧
      (parentActive = true ∧ checkedWhileActive = false ∨
        decide (least.toNat ≤ block.tally registry records ∧
          (block.tally registry records ≤ greatest.toNat ∨
            greatest = 4294967295)) ≠ inverted)

end Block

namespace Requirement

/-! ## Which contracts a requirement counts -/

/-- A kind is found by its own name only. -/
theorem Kind.ofName?_eq_some_iff {name : String} {kind : Kind} :
    ofName? name = some kind ↔ name = kind.name := by
  constructor
  · exact Identity.eq_name_of_find?
  · rintro rfl
    exact ofName?_name kind

theorem Kind.meets_states_complete (state : Lifecycle) :
    complete.states.meets state = state.completed := by
  simp [states, Lifecycle.meets, Lifecycle.none]

theorem Kind.meets_states_accept (state : Lifecycle) :
    accept.states.meets state = (state.active || state.completed) := by
  simp [states, Lifecycle.meets, Lifecycle.none]

variable {requirement : Requirement} {registry : Registry} {block : Block}

/-- The states that count are those that the block says. -/
theorem DescribedBy.meets_iff (h : requirement.DescribedBy registry block)
    {state : Lifecycle} :
    requirement.kind.states.meets state = true ↔ block.CountsState state := by
  have htype : block.first? "type" = some requirement.kind.name := by
    rw [← Kind.ofName?_eq_some_iff.mp h.kind]
    exact h.base.kind
  rw [Block.CountsState, htype]
  cases requirement.kind with
  | complete => simp [Kind.meets_states_complete, Kind.name]
  | accept => simp [Kind.meets_states_accept, Kind.name]

/-- The contracts of the target are those that the block speaks of. -/
theorem DescribedBy.describes_iff (h : requirement.DescribedBy registry block)
    {record : ContractRecord} :
    requirement.target.describes record = true ↔ block.SpeaksOf registry record := by
  have htarget := h.target
  rw [Block.SpeaksOf]
  cases htag : block.first? "tag" with
  | some tag =>
      rw [htag] at htarget
      rw [← Option.some.inj htarget]
      simp [Target.describes]
  | none =>
      rw [htag, Target.named?] at htarget
      obtain ⟨ref, href, heq⟩ := Option.map_eq_some_iff.mp htarget
      obtain ⟨identifier, hfirst, hresolve⟩ := Option.bind_eq_some_iff.mp href
      rw [← heq, show block.first? "contractType" = some identifier from hfirst]
      simp [Target.describes, Registry.names_iff_of_resolve? hresolve]

/-- A contract counts exactly if the block says so. -/
theorem DescribedBy.counts_iff (h : requirement.DescribedBy registry block)
    {record : ContractRecord} :
    requirement.counts record = true ↔ block.Counts registry record := by
  rw [counts, Bool.and_eq_true, h.meets_iff, h.describes_iff]
  rfl

/-- The contracts that count are as many as the block makes them. -/
theorem DescribedBy.countP_counts (h : requirement.DescribedBy registry block)
    (records : List ContractRecord) :
    records.countP requirement.counts = block.tally registry records := by
  refine List.countP_congr ?_
  intro record _
  rw [decide_eq_true_eq]
  exact h.counts_iff

/-! ## What a requirement answers -/

/-- Stopping the count at the largest bound makes no difference but the one that
    is meant: that bound is none. -/
theorem isMet_iff {records : List ContractRecord} :
    requirement.isMet records = true ↔
      requirement.least.toNat ≤ records.countP requirement.counts ∧
        (records.countP requirement.counts ≤ requirement.greatest.toNat ∨
          requirement.greatest = unbounded) := by
  have hleast : requirement.least.toNat ≤ unbounded.toNat :=
    Nat.le_of_lt_succ requirement.least.toNat_lt
  have hgreatest : requirement.greatest = unbounded ↔
      unbounded.toNat ≤ requirement.greatest.toNat := by
    rw [← UInt32.toNat_inj]
    have hlt : requirement.greatest.toNat ≤ unbounded.toNat :=
      Nat.le_of_lt_succ requirement.greatest.toNat_lt
    omega
  rw [isMet, Bool.and_eq_true, decide_eq_true_eq, decide_eq_true_eq, count, hgreatest]
  omega

/-- A check holds if the parent's state excuses it, or if the range is met as wanted.
    -/
theorem check_iff {records : List ContractRecord} {parentActive : Bool} :
    requirement.check records parentActive = true ↔
      (parentActive = true ∧ requirement.base.checkedWhileActive = false) ∨
        requirement.isMet records ≠ requirement.base.inverted := by
  rw [check, Base.applies]
  cases parentActive <;> cases requirement.base.checkedWhileActive <;> simp

/-- The answer depends on the contracts only by how many of them are counted. -/
theorem check_congr {records others : List ContractRecord} (parentActive : Bool)
    (h : others.countP requirement.counts = records.countP requirement.counts) :
    requirement.check others parentActive = requirement.check records parentActive := by
  have hmet : requirement.isMet others = requirement.isMet records := by
    rw [isMet, isMet, count, count, h]
  rw [check, check, hmet]

/-- A requirement answers as its definition says. -/
theorem DefinedBy.check_iff_isFulfilled (h : requirement.DefinedBy registry block)
    {records : List ContractRecord} {parentActive : Bool} :
    requirement.check records parentActive = true ↔
      block.IsFulfilled registry records parentActive := by
  have hleast := speltBy_count.read_optional_eq_ok_iff.mp h.least
  have hgreatest := speltBy_count.read_optional_eq_ok_iff.mp h.greatest
  have hinverted := speltBy_flag.read_optional_eq_ok_iff.mp h.base.inverted
  have hchecked := speltBy_flag.read_optional_eq_ok_iff.mp h.base.checkedWhileActive
  have hmet : requirement.isMet records =
      decide (requirement.least.toNat ≤ block.tally registry records ∧
        (block.tally registry records ≤ requirement.greatest.toNat ∨
          requirement.greatest = unbounded)) := by
    rw [Bool.eq_iff_iff, isMet_iff, h.countP_counts, decide_eq_true_eq]
  rw [check_iff, hmet]
  constructor
  · intro hanswer
    exact ⟨_, _, _, _, hleast, hgreatest, hinverted, hchecked, hanswer⟩
  · -- a block gives each field one value, so these are the requirement's
    rintro ⟨_, _, _, _, hleast', hgreatest', hinverted', hchecked', hanswer⟩
    rwa [speltBy_count.gives_unique hleast' hleast,
      speltBy_count.gives_unique hgreatest' hgreatest,
      speltBy_flag.gives_unique hinverted' hinverted,
      speltBy_flag.gives_unique hchecked' hchecked] at hanswer

/-- **The engine's answer is what the definition says**, for every history of
    contracts.  So it stays the same when the contracts are put in another order,
    and when contracts come or go that the definition does not count. -/
theorem check_eq_of_load (registry : Registry) (block : Block)
    (requirement : Requirement)
    (hload : (load registry block).run.value = .ok requirement)
    (records : List ContractRecord) (parentActive : Bool) :
    (requirement.check records parentActive = true ↔
        block.IsFulfilled registry records parentActive) ∧
      (∀ others, others.Perm records →
        requirement.check others parentActive =
          requirement.check records parentActive) ∧
      ∀ others,
        others.filter (fun record => block.Counts registry record) =
          records.filter (fun record => block.Counts registry record) →
        requirement.check others parentActive =
          requirement.check records parentActive := by
  have hdefined := load_eq_ok_iff.mp hload
  refine ⟨hdefined.check_iff_isFulfilled, ?_, ?_⟩
  · intro others hperm
    exact check_congr parentActive (hperm.countP_eq _)
  · intro others hfilter
    refine check_congr parentActive ?_
    rw [hdefined.countP_counts, hdefined.countP_counts, Block.tally, Block.tally,
      List.countP_eq_length_filter, List.countP_eq_length_filter, hfilter]

/-- A registry in which the key of a compiled type is not its bare name. -/
def salvagers : Registry where
  declarative := [⟨"Escort", "see a convoy home", true⟩]
  compiled := [("Rescue", .ofPath "missions.Salvage")]
  names_ne_empty := by decide
  names_nodup := by decide
  keys_nodup := by decide

/-- A definition that does not want two contracts of the compiled type. -/
def wary : Block :=
  ⟨"REQUIREMENT", [("type", "AcceptContract"), ("contractType", "Rescue"),
    ("contractType", "Escort"), ("minCount", "02"), ("invertRequirement", " TRUE ")]⟩

/-- What the definition loads as. -/
def wariness : Requirement :=
  ⟨{ Base.ofKind "AcceptContract" with inverted := true }, .accept,
    .type (.compiled "Rescue" ⟨"Salvage", "missions.Salvage"⟩), 2, unbounded⟩

/-- A history with two contracts that count, and one that has the name of the
    key. -/
def salvages : List ContractRecord :=
  [⟨"Salvage", [], { Lifecycle.none with active := true }⟩,
   ⟨"Rescue", ["Rescue"], { Lifecycle.none with completed := true }⟩,
   ⟨"Salvage", ["late"], { Lifecycle.none with active := true, failed := true }⟩]

/-- Two contracts count by their type and one that has the name of the key does not,
    so the definition is not fulfilled. -/
theorem check_eq_of_load_wary :
    (load salvagers wary).run.value = .ok wariness ∧
      ¬ wary.IsFulfilled salvagers salvages true ∧
      (∀ others, others.Perm salvages → wariness.check others true = false) ∧
      ∀ others,
        others.filter (fun record => wary.Counts salvagers record) =
          salvages.filter (fun record => wary.Counts salvagers record) →
        wariness.check others true = false := by
  have hload : (load salvagers wary).run.value = .ok wariness := rfl
  have hanswer : wariness.check salvages true = false := rfl
  obtain ⟨hmeans, hperm, hfilter⟩ :=
    check_eq_of_load salvagers wary wariness hload salvages true
  rw [hanswer] at hmeans hperm hfilter
  exact ⟨hload, fun h => Bool.false_ne_true (hmeans.mpr h), hperm, hfilter⟩

end Requirement

end ContractRules
