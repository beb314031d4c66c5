import ContractRules.Registry.Draft
import ContractRules.Proofs.Registry.Meaning

/-! # Growth — a registry with more types

    More types can be registered before a registry is built, in any places among
    the others.  What is built then has every type that it had without them
    (`GrowsTo`).  A covered identifier stays covered, and a key stays a key.  So
    the only identifiers that change their meaning are keys that begin with a new
    declarative name (`GrowsTo.resolve?_eq`, `GrowsTo.resolve?_of_added`). -/

namespace ContractRules.Registry

namespace Draft

/-- A draft covers the identifiers that begin with one of its declarative names. -/
def Covers (draft : Draft) (identifier : String) : Prop :=
  ∃ type ∈ draft.declarative, type.name.toList <+: identifier.toList

instance (draft : Draft) (identifier : String) :
    Decidable (draft.Covers identifier) :=
  inferInstanceAs (Decidable (∃ type ∈ draft.declarative, _))

/-- A draft holds the registrations of another one and those added, in any
    order. -/
structure Extends (larger draft added : Draft) : Prop where
  declarative : larger.declarative.Perm (draft.declarative ++ added.declarative)
  compiled : larger.compiled.Perm (draft.compiled ++ added.compiled)

/-- A registry that is built has the types of its draft. -/
theorem types_of_build {draft : Draft} {registry : Registry}
    (h : draft.build = .ok registry) :
    registry.declarative = draft.declarative ∧ registry.compiled = draft.compiled := by
  rw [build] at h
  split at h
  · cases h
  · cases h
  · rw [← Except.ok.inj h]
    exact ⟨rfl, rfl⟩

end Draft

/-- A registry grows to another one by the types that a draft adds. -/
structure GrowsTo (registry : Registry) (added : Draft) (larger : Registry) :
    Prop where
  covers_iff : ∀ identifier, larger.Covers identifier ↔
    registry.Covers identifier ∨ added.Covers identifier
  compiled : ∀ entry ∈ registry.compiled, entry ∈ larger.compiled

/-- Building an extended draft makes the registry grow. -/
theorem Draft.Extends.growsTo {draft added extended : Draft}
    {registry larger : Registry} (h : extended.Extends draft added)
    (hbuild : draft.build = .ok registry) (hlarger : extended.build = .ok larger) :
    registry.GrowsTo added larger := by
  obtain ⟨hdeclarative, hcompiled⟩ := types_of_build hbuild
  obtain ⟨hdeclarative', hcompiled'⟩ := types_of_build hlarger
  constructor
  · intro identifier
    rw [Registry.Covers, Registry.Covers, Covers, hdeclarative, hdeclarative']
    simp only [h.declarative.mem_iff, List.mem_append, or_and_right, exists_or]
  · intro entry hentry
    rw [hcompiled] at hentry
    rw [hcompiled', h.compiled.mem_iff]
    exact List.mem_append_left _ hentry

namespace GrowsTo

variable {registry larger : Registry} {added : Draft}

/-- What an identifier meant it still means, unless it is a key that begins with
    a new declarative name. -/
theorem resolve?_eq (h : registry.GrowsTo added larger) {identifier : String}
    {ref : TypeRef} (hresolve : registry.resolve? identifier = some ref)
    (hspared : ∀ key type, ref = .compiled key type → ¬ added.Covers key) :
    larger.resolve? identifier = some ref := by
  cases ref with
  | declarative written =>
      obtain ⟨hcovers, rfl⟩ := resolve?_eq_declarative_iff.mp hresolve
      exact resolve?_of_covers ((h.covers_iff _).mpr (Or.inl hcovers))
  | compiled key type =>
      obtain ⟨hnot, rfl, hmem⟩ := resolve?_eq_compiled_iff.mp hresolve
      refine resolve?_eq_compiled_iff.mpr ⟨?_, rfl, h.compiled _ hmem⟩
      rw [h.covers_iff, not_or]
      exact ⟨hnot, hspared key type rfl⟩

/-- An identifier that begins with a new declarative name stands for itself. -/
theorem resolve?_of_added (h : registry.GrowsTo added larger) {identifier : String}
    (hadded : added.Covers identifier) :
    larger.resolve? identifier = some (.declarative identifier) :=
  resolve?_of_covers ((h.covers_iff identifier).mpr (Or.inr hadded))

end GrowsTo

end ContractRules.Registry
