/-!
# The registry of contract types

A contract type is **declarative**, defined by configuration, or **compiled**,
built into the host and registered under a key. A registry never changes, and it
holds the proof that its types can be looked up without ambiguity: declarative
names are pairwise different and never empty, and compiled keys are pairwise
different.
-/

namespace ContractRules

/-- A contract type defined by configuration. -/
structure DeclarativeType where
  name : String
  /-- How titles refer to contracts of this type. -/
  title : String
  /-- A type that failed its own load is known, but gives no title. -/
  valid : Bool
  deriving Repr, DecidableEq

/-- A contract type built into the host. -/
structure CompiledType where
  /-- The bare name: what follows the last point or colon of the path. -/
  name : String
  path : String
  deriving Repr, DecidableEq

namespace CompiledType

/-- What follows the last point or colon of a path, or all of it. -/
def bareName (path : List Char) : List Char :=
  (path.reverse.takeWhile fun c => c != '.' && c != ':').reverse

/-- The type with a path. -/
def ofPath (path : String) : CompiledType :=
  ⟨String.ofList (bareName path.toList), path⟩

end CompiledType

/-- Every known contract type, in the order of registration. -/
structure Registry where
  declarative : List DeclarativeType
  /-- Compiled types with their keys. -/
  compiled : List (String × CompiledType)
  names_ne_empty : ∀ type ∈ declarative, type.name ≠ ""
  names_nodup : (declarative.map (·.name)).Nodup
  keys_nodup : (compiled.map (·.1)).Nodup

namespace Registry

/-- The registry without types. -/
def empty : Registry := ⟨[], [], by simp, by simp, by simp⟩

end Registry

end ContractRules
