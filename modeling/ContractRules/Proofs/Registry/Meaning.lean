import ContractRules.Proofs.Registry.Knowledge
import Mathlib.Data.List.Nodup

/-! # Meaning — what a known identifier stands for

    Two questions decide what an identifier means.  Does it begin with the name of
    a declarative type (`Covers`)?  Then it stands for itself.  If it does not, is
    it the key of a compiled type?  Then it stands for that type, and since keys
    never repeat the type is the one that was registered under it
    (`compiledAt?_eq_some_iff`).

    The order of registration plays no part in either, so `resolve?` is described
    here by membership alone (`resolve?_eq_declarative_iff`,
    `resolve?_eq_compiled_iff`). -/

namespace ContractRules.Registry

/-- A registry covers the identifiers that begin with a declarative name. -/
def Covers (registry : Registry) (identifier : String) : Prop :=
  ∃ type ∈ registry.declarative, type.name.toList <+: identifier.toList

instance (registry : Registry) (identifier : String) :
    Decidable (registry.Covers identifier) :=
  inferInstanceAs (Decidable (∃ type ∈ registry.declarative, _))

variable {registry : Registry} {identifier : String}

/-- A search finds a member that passes its test, if no other member does. -/
theorem find?_eq_some_iff_of_unique {α : Type} {items : List α} {test : α → Bool}
    (hunique : ∀ item ∈ items, ∀ other ∈ items,
      test item = true → test other = true → item = other) {item : α} :
    items.find? test = some item ↔ item ∈ items ∧ test item = true := by
  constructor
  · intro h
    exact ⟨List.mem_of_find?_eq_some h, List.find?_some h⟩
  · rintro ⟨hmem, htest⟩
    obtain ⟨found, hfound⟩ : ∃ found, items.find? test = some found := by
      rw [← Option.isSome_iff_exists, List.find?_isSome]
      exact ⟨item, hmem, htest⟩
    rw [hfound, hunique found (List.mem_of_find?_eq_some hfound) item hmem
      (List.find?_some hfound) htest]

/-- A key finds the one type that is registered under it. -/
theorem compiledAt?_eq_some_iff {key : String} {type : CompiledType} :
    registry.compiledAt? key = some type ↔ (key, type) ∈ registry.compiled := by
  have hunique : ∀ entry ∈ registry.compiled, ∀ other ∈ registry.compiled,
      (entry.1 == key) = true → (other.1 == key) = true → entry = other := by
    intro entry hentry other hother hkey hkey'
    exact List.inj_on_of_nodup_map registry.keys_nodup hentry hother
      ((beq_iff_eq.mp hkey).trans (beq_iff_eq.mp hkey').symm)
  rw [compiledAt?, Option.map_eq_some_iff]
  simp only [find?_eq_some_iff_of_unique hunique]
  constructor
  · rintro ⟨⟨found, type⟩, ⟨hmem, hkey⟩, rfl⟩
    obtain rfl : found = key := beq_iff_eq.mp hkey
    exact hmem
  · intro hmem
    exact ⟨_, ⟨hmem, beq_self_eq_true key⟩, rfl⟩

/-- A covered identifier stands for itself. -/
theorem resolve?_of_covers (h : registry.Covers identifier) :
    registry.resolve? identifier = some (.declarative identifier) := by
  obtain ⟨type, htype⟩ :=
    Option.isSome_iff_exists.mp (isSome_declarativeFor?_iff.mpr h)
  rw [resolve?, htype]

/-- Any other identifier is looked up among the keys. -/
theorem resolve?_of_not_covers (h : ¬ registry.Covers identifier) :
    registry.resolve? identifier =
      (registry.compiledAt? identifier).map (.compiled identifier) := by
  have hnone : registry.declarativeFor? identifier = none := by
    rw [← Option.not_isSome_iff_eq_none]
    exact fun hsome => h (isSome_declarativeFor?_iff.mp hsome)
  rw [resolve?, hnone]

/-- An identifier that is covered means what is written, and no other one does. -/
theorem resolve?_eq_declarative_iff {written : String} :
    registry.resolve? identifier = some (.declarative written) ↔
      registry.Covers identifier ∧ written = identifier := by
  by_cases hcovers : registry.Covers identifier
  · rw [resolve?_of_covers hcovers, Option.some_inj, TypeRef.declarative.injEq,
      eq_comm]
    exact (and_iff_right hcovers).symm
  · rw [resolve?_of_not_covers hcovers]
    refine iff_of_false ?_ fun h => hcovers h.1
    intro h
    obtain ⟨type, -, heq⟩ := Option.map_eq_some_iff.mp h
    cases heq

/-- An identifier that is not covered means the compiled type under it. -/
theorem resolve?_eq_compiled_iff {key : String} {type : CompiledType} :
    registry.resolve? identifier = some (.compiled key type) ↔
      ¬ registry.Covers identifier ∧ key = identifier ∧
        (key, type) ∈ registry.compiled := by
  by_cases hcovers : registry.Covers identifier
  · rw [resolve?_of_covers hcovers]
    refine iff_of_false ?_ fun h => h.1 hcovers
    intro h
    cases Option.some.inj h
  · rw [resolve?_of_not_covers hcovers, and_iff_right hcovers,
      Option.map_eq_some_iff]
    constructor
    · rintro ⟨found, hfound, heq⟩
      obtain ⟨rfl, rfl⟩ := TypeRef.compiled.inj heq
      exact ⟨rfl, compiledAt?_eq_some_iff.mp hfound⟩
    · rintro ⟨rfl, hmem⟩
      exact ⟨type, compiledAt?_eq_some_iff.mpr hmem, rfl⟩

/-- What an identifier means is kept under the identifier itself. -/
theorem identifier_of_resolve? {ref : TypeRef}
    (h : registry.resolve? identifier = some ref) : ref.identifier = identifier := by
  cases ref with
  | declarative written => exact (resolve?_eq_declarative_iff.mp h).2
  | compiled key type => exact (resolve?_eq_compiled_iff.mp h).2.1

/-- An identifier has two readings if it is covered and the key of a compiled type
    as well. -/
def HasTwoReadings (registry : Registry) (identifier : String) : Prop :=
  registry.Covers identifier ∧ ∃ entry ∈ registry.compiled, entry.1 = identifier

instance (registry : Registry) (identifier : String) :
    Decidable (registry.HasTwoReadings identifier) :=
  inferInstanceAs (Decidable (_ ∧ _))

/-- An identifier is shadowed exactly if it has two readings. -/
theorem isShadowed_iff :
    registry.isShadowed identifier = true ↔ registry.HasTwoReadings identifier := by
  rw [isShadowed, Bool.and_eq_true, isSome_compiledAt?_iff]
  exact and_congr_left fun _ => isSome_declarativeFor?_iff

/-! ## Names of contracts -/

/-- The name that contracts of the type under an identifier carry: the identifier
    itself if it is covered, and otherwise the bare name of the compiled type with
    that key. -/
def Names (registry : Registry) (identifier name : String) : Prop :=
  registry.Covers identifier ∧ name = identifier ∨
    ¬ registry.Covers identifier ∧
      ∃ entry ∈ registry.compiled, entry.1 = identifier ∧ name = entry.2.name

instance (registry : Registry) (identifier name : String) :
    Decidable (registry.Names identifier name) :=
  inferInstanceAs (Decidable (_ ∨ _))

/-- An identifier names the contracts of the type that it resolves to. -/
theorem names_iff_of_resolve? {ref : TypeRef} {name : String}
    (h : registry.resolve? identifier = some ref) :
    registry.Names identifier name ↔ name = ref.typeName := by
  cases ref with
  | declarative written =>
      obtain ⟨hcovers, rfl⟩ := resolve?_eq_declarative_iff.mp h
      constructor
      · rintro (⟨-, hname⟩ | ⟨hnot, -⟩)
        · exact hname
        · exact absurd hcovers hnot
      · intro hname
        exact Or.inl ⟨hcovers, hname⟩
  | compiled key type =>
      obtain ⟨hnot, rfl, hmem⟩ := resolve?_eq_compiled_iff.mp h
      constructor
      · rintro (⟨hcovers, -⟩ | ⟨-, entry, hentry, hkey, hname⟩)
        · exact absurd hcovers hnot
        · -- keys are told apart, so there is one entry under this one
          have heq : entry = (key, type) :=
            List.inj_on_of_nodup_map registry.keys_nodup hentry hmem hkey
          rw [hname, heq]
          rfl
      · intro hname
        exact Or.inr ⟨hnot, _, hmem, rfl, hname⟩

end ContractRules.Registry
