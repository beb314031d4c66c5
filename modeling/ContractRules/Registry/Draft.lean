import ContractRules.Event
import ContractRules.Registry.Basic

/-!
# Drafts — building a registry from registrations

A draft collects registrations in order. Building it checks them once: faults
among declarative types come before faults among compiled types, and of several
the first in the order of registration is reported. Without a fault the draft's
types are the registry's, and the absence of faults is the proof that it needs.
-/

namespace ContractRules

/-- Why a draft does not build. -/
inductive RegistryError where
  | unnamed
  | repeatedName (name : String)
  | repeatedKey (key : String)
  deriving Repr, DecidableEq

/-- The wording of an error. -/
def RegistryError.message : RegistryError → String
  | unnamed => "declarative contract type names must not be empty"
  | repeatedName name =>
    s!"declarative contract type '{name}' is registered more than once"
  | repeatedKey key => s!"compiled contract type key '{key}' is registered more than once"

namespace Registry

/-- Registrations that have not been checked yet. -/
structure Draft where
  declarative : List DeclarativeType
  compiled : List (String × CompiledType)
  deriving Repr, DecidableEq

namespace Draft

/-- No registrations. -/
def empty : Draft := ⟨[], []⟩

/-- Registers a declarative type. -/
def addDeclarative (draft : Draft) (type : DeclarativeType) : Draft :=
  { draft with declarative := draft.declarative ++ [type] }

/-- Registers a compiled type under a key. -/
def addCompiledAs (draft : Draft) (key : String) (type : CompiledType) : Draft :=
  { draft with compiled := draft.compiled ++ [(key, type)] }

/-- Registers a compiled type under its bare name. -/
def addCompiled (draft : Draft) (type : CompiledType) : Draft :=
  draft.addCompiledAs type.name type

/-- The first fault among declarative types, given the names before them. -/
def nameFault? (seen : List String) : List DeclarativeType → Option RegistryError
  | [] => none
  | type :: rest =>
    if type.name = "" then some .unnamed
    else if type.name ∈ seen then some (.repeatedName type.name)
    else nameFault? (type.name :: seen) rest

/-- The first key that repeats an earlier one, given the keys before. -/
def keyFault? (seen : List String) : List String → Option RegistryError
  | [] => none
  | key :: rest =>
    if key ∈ seen then some (.repeatedKey key) else keyFault? (key :: seen) rest

/-- Declarative types are without fault exactly when their names are non-empty,
    new, and pairwise different. -/
theorem nameFault?_eq_none_iff {seen : List String} {types : List DeclarativeType} :
    nameFault? seen types = none ↔
      (∀ type ∈ types, type.name ≠ "" ∧ type.name ∉ seen) ∧
        (types.map (·.name)).Nodup := by
  induction types generalizing seen with
  | nil => simp [nameFault?]
  | cons type rest ih =>
    by_cases empty : type.name = ""
    · simp [nameFault?, empty]
    by_cases old : type.name ∈ seen
    · simp [nameFault?, empty, old]
    simp only [nameFault?, empty, old, if_false, ih, List.mem_cons, List.map_cons,
      List.nodup_cons, List.mem_map]
    grind

/-- Keys are without fault exactly when they are new and pairwise different. -/
theorem keyFault?_eq_none_iff {seen keys : List String} :
    keyFault? seen keys = none ↔ (∀ key ∈ keys, key ∉ seen) ∧ keys.Nodup := by
  induction keys generalizing seen with
  | nil => simp [keyFault?]
  | cons key rest ih =>
    by_cases old : key ∈ seen
    · simp [keyFault?, old]
    simp only [keyFault?, old, if_false, ih, List.mem_cons, List.nodup_cons]
    grind

/-- Checks the registrations and freezes them. -/
def build (draft : Draft) : Except RegistryError Registry :=
  match names : nameFault? [] draft.declarative,
      keys : keyFault? [] (draft.compiled.map (·.1)) with
  | some fault, _ => .error fault
  | none, some fault => .error fault
  | none, none =>
    .ok {
      declarative := draft.declarative
      compiled := draft.compiled
      names_ne_empty := fun type h => ((nameFault?_eq_none_iff.1 names).1 type h).1
      names_nodup := (nameFault?_eq_none_iff.1 names).2
      keys_nodup := (keyFault?_eq_none_iff.1 keys).2 }

/-- Builds the registry and tells the log how many types it holds. -/
def buildLogged (draft : Draft) : Logged (Except RegistryError Registry) :=
  match draft.build with
  | .error fault => ⟨.error fault, []⟩
  | .ok registry =>
    ⟨.ok registry,
      [.registryBuilt registry.declarative.length registry.compiled.length]⟩

/-- A draft that does not build tells nothing. -/
theorem buildLogged_of_error {draft : Draft} {fault : RegistryError}
    (h : draft.build = .error fault) : draft.buildLogged = ⟨.error fault, []⟩ := by
  rw [buildLogged, h]

/-- A draft that builds tells of the registry once. -/
theorem buildLogged_of_ok {draft : Draft} {registry : Registry}
    (h : draft.build = .ok registry) :
    draft.buildLogged = ⟨.ok registry,
      [.registryBuilt registry.declarative.length registry.compiled.length]⟩ := by
  rw [buildLogged, h]

end Draft

end Registry

end ContractRules
