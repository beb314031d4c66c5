import ContractRules.Event
import ContractRules.Registry.Basic

/-!
# Resolving identifiers

An identifier in a definition means a declarative type if it begins with the name
of one; so every variant of a base name resolves without a registration of its
own. Otherwise it must be the exact key of a compiled type. An identifier with
both readings takes the declarative one, and the log is told.
-/

namespace ContractRules

/-- What an identifier resolved to. -/
inductive TypeRef where
  /-- The identifier as written; it begins with the name of a declarative type. -/
  | declarative (identifier : String)
  /-- A compiled type with the key it was found under. -/
  | compiled (key : String) (type : CompiledType)
  deriving Repr, DecidableEq

namespace TypeRef

/-- The identifier that stands for the reference in saved state. -/
def identifier : TypeRef → String
  | declarative identifier => identifier
  | compiled key _ => key

/-- The name that contracts of the type carry. -/
def typeName : TypeRef → String
  | declarative identifier => identifier
  | compiled _ type => type.name

end TypeRef

namespace Registry

/-- The first declarative type whose name an identifier begins with. -/
def declarativeFor? (registry : Registry) (identifier : String) :
    Option DeclarativeType :=
  registry.declarative.find? fun type =>
    type.name.toList.isPrefixOf identifier.toList

/-- The valid declarative type with exactly this name. -/
def validNamed? (registry : Registry) (name : String) : Option DeclarativeType :=
  registry.declarative.find? fun type => type.valid && type.name == name

/-- The compiled type under a key. -/
def compiledAt? (registry : Registry) (key : String) : Option CompiledType :=
  (registry.compiled.find? (·.1 == key)).map (·.2)

/-- Whether an identifier has both readings, so that the compiled type under it
    can not be reached. -/
def isShadowed (registry : Registry) (identifier : String) : Bool :=
  (registry.declarativeFor? identifier).isSome &&
    (registry.compiledAt? identifier).isSome

/-- What an identifier means, if it means anything. -/
def resolve? (registry : Registry) (identifier : String) : Option TypeRef :=
  match registry.declarativeFor? identifier with
  | some _ => some (.declarative identifier)
  | none => (registry.compiledAt? identifier).map (.compiled identifier)

/-- Resolves an identifier on behalf of an owner, who is told of an identifier
    with both readings, and blamed for one with none. -/
def resolve (registry : Registry) (owner identifier : String) :
    Logged (Except Diagnostic TypeRef) where
  value :=
    match registry.resolve? identifier with
    | some type => .ok type
    | none => .error ⟨owner, .unresolvedType identifier⟩
  events :=
    if registry.isShadowed identifier then [.shadowed owner identifier] else []

end Registry

end ContractRules
