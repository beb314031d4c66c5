import ContractRules.Diagnostic
import ContractRules.Requirement.Kind

/-!
# Events — what a run tells its log

Every function that has something to tell returns its events beside its result,
in the order in which they happened. `Logged` carries the two together; running
one logged computation after another appends the events of the second.

A log has an entry for each event: how much it matters, its wording, and what else
it says. Recorders write entries down.
-/

namespace ContractRules

/-- How much an event matters. -/
inductive Level where
  | debug
  | warn
  | error
  deriving Repr, DecidableEq

namespace Level

/-- The name of a level. -/
def name : Level → String
  | debug => "DEBUG"
  | warn => "WARN"
  | error => "ERROR"

/-- Whether a log that is kept from one level on has the events of another one. -/
def reaches : Level → Level → Bool
  | debug, _ => true
  | warn, level => level ≠ debug
  | error, level => level = error

end Level

/-- Something that happened. -/
inductive Event where
  /-- A journal with this owner recorded a diagnostic. -/
  | recorded (owner : String) (diagnostic : Diagnostic)
  /-- An identifier has both a declarative and a compiled reading. -/
  | shadowed (owner identifier : String)
  /-- A block that defines nothing was passed over. -/
  | skipped (block : String)
  /-- A registry was built from so many types. -/
  | registryBuilt (declarative compiled : Nat)
  /-- A requirement was loaded from its definition. -/
  | requirementLoaded (name : String) (kind : Requirement.Kind)
  /-- A document was loaded, with so many blocks of each outcome. -/
  | documentLoaded (loaded failed skipped : Nat)
  deriving Repr, DecidableEq

namespace Event

/-- The level of an event. -/
def level : Event → Level
  | recorded .. => .error
  | shadowed .. | skipped _ => .warn
  | registryBuilt .. | requirementLoaded .. | documentLoaded .. => .debug

/-- The wording of an event. -/
def message : Event → String
  | recorded _ diagnostic => diagnostic.text
  | shadowed .. =>
    "contractType matches a declarative type prefix and a compiled type; " ++
      "using the declarative type"
  | skipped _ => "skipping unknown block"
  | registryBuilt .. => "contract type registry built"
  | requirementLoaded .. => "loaded contract check"
  | documentLoaded .. => "document loaded"

/-- What an event says besides its wording, by name. -/
def fields : Event → List (String × String)
  | recorded owner _ => [("owner", owner)]
  | shadowed owner identifier => [("owner", owner), ("identifier", identifier)]
  | skipped block => [("block", block)]
  | registryBuilt declarative compiled =>
    [("declarative", toString declarative), ("compiled", toString compiled)]
  | requirementLoaded name kind => [("name", name), ("kind", kind.name)]
  | documentLoaded loaded failed passedOver =>
    [("loaded", toString loaded), ("failed", toString failed),
     ("skipped", toString passedOver)]

end Event

/-- An event as a log has it. -/
structure Entry where
  level : Level
  message : String
  fields : List (String × String)
  deriving Repr, DecidableEq

/-- The entry of an event. -/
def Event.entry (event : Event) : Entry := ⟨event.level, event.message, event.fields⟩

/-- The line of an entry. -/
def Entry.line (entry : Entry) : String :=
  let fields := entry.fields.map fun field => " " ++ field.1 ++ "=" ++ field.2
  entry.level.name ++ " " ++ entry.message ++ String.join fields ++ "\n"

/-- How a log writes the events of a run down. What form it gives them, which times
    it puts to them and which of them it leaves out is its own business. -/
abbrev Recorder := List Event → String

namespace Recorder

/-- A log that is off. -/
def off : Recorder := fun _ => ""

/-- A log with a line for each event from some level on. -/
def lines (least : Level) : Recorder := fun events =>
  let entries := (events.map Event.entry).filter fun entry => least.reaches entry.level
  String.join (entries.map Entry.line)

end Recorder

/-- A value with the events that led to it. -/
structure Logged (α : Type) where
  value : α
  events : List Event
  deriving Repr, DecidableEq

namespace Logged

/-- Tells one event. -/
def tell (event : Event) : Logged Unit := ⟨(), [event]⟩

/-- Several results together: all values, and all events one after the other. -/
def all {α : Type} (results : List (Logged α)) : Logged (List α) :=
  ⟨results.map (·.value), results.flatMap (·.events)⟩

instance : Monad Logged where
  pure value := ⟨value, []⟩
  bind first next :=
    let second := next first.value
    ⟨second.value, first.events ++ second.events⟩

variable {α β : Type}

instance : LawfulMonad Logged :=
  LawfulMonad.mk' _
    (fun x => by simp [Functor.map])
    (fun a f => by simp [Bind.bind, Pure.pure])
    (fun x f g => by simp [Bind.bind, List.append_assoc])

@[simp] theorem value_pure (a : α) : (pure a : Logged α).value = a := rfl

@[simp] theorem events_pure (a : α) : (pure a : Logged α).events = [] := rfl

@[simp] theorem value_bind (first : Logged α) (next : α → Logged β) :
    (first >>= next).value = (next first.value).value := rfl

@[simp] theorem events_bind (first : Logged α) (next : α → Logged β) :
    (first >>= next).events = first.events ++ (next first.value).events := rfl

end Logged

end ContractRules
