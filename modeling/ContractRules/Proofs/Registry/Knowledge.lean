import ContractRules.Registry.Resolve

/-! # Knowledge — which identifiers a registry can resolve

    An identifier is known for one of two reasons: it begins with the name of a
    declarative type, or it is the key of a compiled type.  Which entry the
    look-ups find first does not matter for that. -/

namespace ContractRules.Registry

/-- A registry knows the identifiers that begin with a declarative name, and the
    keys of its compiled types. -/
def Knows (registry : Registry) (identifier : String) : Prop :=
  (∃ type ∈ registry.declarative, type.name.toList <+: identifier.toList) ∨
    ∃ entry ∈ registry.compiled, entry.1 = identifier

instance (registry : Registry) (identifier : String) :
    Decidable (registry.Knows identifier) :=
  inferInstanceAs (Decidable (_ ∨ _))

/-- There is a declarative reading exactly if the name of some type comes first. -/
theorem isSome_declarativeFor?_iff {registry : Registry} {identifier : String} :
    (registry.declarativeFor? identifier).isSome = true ↔
      ∃ type ∈ registry.declarative, type.name.toList <+: identifier.toList := by
  simp only [declarativeFor?, List.find?_isSome, List.isPrefixOf_iff_prefix]

/-- There is a compiled reading exactly if some type has that key. -/
theorem isSome_compiledAt?_iff {registry : Registry} {identifier : String} :
    (registry.compiledAt? identifier).isSome = true ↔
      ∃ entry ∈ registry.compiled, entry.1 = identifier := by
  simp only [compiledAt?, Option.isSome_map, List.find?_isSome, beq_iff_eq]

/-- What is known resolves, and nothing else does. -/
theorem isSome_resolve?_iff {registry : Registry} {identifier : String} :
    (registry.resolve? identifier).isSome = true ↔ registry.Knows identifier := by
  rw [Knows, ← isSome_declarativeFor?_iff, ← isSome_compiledAt?_iff, resolve?]
  cases registry.declarativeFor? identifier with
  | none => simp
  | some type => simp

end ContractRules.Registry
