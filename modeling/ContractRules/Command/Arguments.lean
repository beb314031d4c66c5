import ContractRules.Registry.Draft
import ContractRules.Text.Blank

/-!
# The arguments of the command

Arguments are taken from left to right. A request for help or for the version is
honoured as soon as it is met, so only an error in front of it can prevent that.
Options that take a value take the next argument, whatever it looks like; two of
them can also hold their value behind an equals sign.

What does not begin with a hyphen, and the hyphen alone, names the input, of which
there can be only one. The hyphen and no name at all mean the standard input.
-/

namespace ContractRules.Command

/-- What a run was asked to do. -/
structure Options where
  /-- The name of the input, if one was given. -/
  input? : Option String
  /-- The contract types to register. -/
  types : Registry.Draft
  color : Bool
  /-- Whether the saved form of each requirement is shown. -/
  showSaved : Bool

/-- The options before the first argument; the output may ask for colour. -/
def Options.start (color : Bool) : Options := ⟨none, .empty, color, false⟩

/-- Why the arguments make no sense. -/
inductive UsageError where
  | missingValue (option : String)
  | badType (value : String)
  | unknownOption (argument : String)
  | secondInput
  deriving Repr, DecidableEq

/-- The wording of an error. -/
def UsageError.message : UsageError → String
  | missingValue option => s!"{option} expects a value"
  | badType value =>
    s!"invalid contract type '{value}' (expected NAME or NAME=TITLE)"
  | unknownOption argument => s!"unknown option '{argument}'"
  | secondInput => "input provided multiple times"

/-- What the arguments ask for. -/
inductive Request where
  | help
  | version
  | validate (options : Options)

/-- Reads `NAME` or `NAME=TITLE` as a declarative type. A name alone is also the
    title; the name must not be blank. -/
def readType (valid : Bool) (value : String) : Except UsageError DeclarativeType :=
  let text := value.toList
  let name := Text.trim (text.takeWhile (· != '='))
  let title := match text.dropWhile (· != '=') with
    | [] => text
    | _ :: title => title
  if name = [] then .error (.badType value)
  else .ok ⟨String.ofList name, String.ofList (Text.trim title), valid⟩

/-- The option that registers a declarative type. -/
def typeOption : String := "--type"

/-- The option that registers a declarative type that failed its own load. -/
def invalidTypeOption : String := "--invalid-type"

/-- The option that registers a compiled type. -/
def compiledOption : String := "--compiled"

/-- Drops a text from the front of another one as often as it stands there. -/
def dropRepeated (mark text : List Char) : List Char :=
  if h : mark ≠ [] ∧ mark <+: text then
    have : 0 < mark.length := List.length_pos_iff.2 h.1
    have : mark.length ≤ text.length := h.2.length_le
    dropRepeated mark (text.drop mark.length)
  else text
termination_by text.length
decreasing_by
  simp only [List.length_drop]
  omega

/-- The value that an argument holds behind an option and an equals sign. The
    option can stand in front of the value more than once. -/
def joinedValue? (option argument : String) : Option String :=
  let mark := option.toList ++ ['=']
  if mark <+: argument.toList then
    some (String.ofList (dropRepeated mark argument.toList))
  else none

namespace Options

/-- Registers the declarative type that a value describes. -/
def addType (options : Options) (valid : Bool) (value : String) :
    Except UsageError Options := do
  let type ← readType valid value
  return { options with types := options.types.addDeclarative type }

/-- Registers the compiled type with a path. -/
def addCompiled (options : Options) (path : String) : Options :=
  { options with types := options.types.addCompiled (.ofPath path) }

/-- Takes an argument that is no option known by its whole text. -/
def takeOther (options : Options) (argument : String) :
    Except UsageError Options :=
  match joinedValue? typeOption argument with
  | some value => options.addType true value
  | none =>
    match joinedValue? compiledOption argument with
    | some path => .ok (options.addCompiled path)
    | none =>
      if argument.toList.head? = some '-' ∧ argument ≠ "-" then
        .error (.unknownOption argument)
      else if options.input?.isSome then .error .secondInput
      else .ok { options with input? := some argument }

end Options

/-- Reads the arguments that are left. -/
def Options.read (options : Options) : List String → Except UsageError Request
  | [] => .ok (.validate options)
  | argument :: rest =>
    if argument = "-h" ∨ argument = "--help" then .ok .help
    else if argument = "-V" ∨ argument = "--version" then .ok .version
    else if argument = "--color" then { options with color := true }.read rest
    else if argument = "--no-color" then { options with color := false }.read rest
    else if argument = "--save" then { options with showSaved := true }.read rest
    else if argument = typeOption then
      match rest with
      | [] => .error (.missingValue typeOption)
      | value :: rest => do (← options.addType true value).read rest
    else if argument = invalidTypeOption then
      match rest with
      | [] => .error (.missingValue invalidTypeOption)
      | value :: rest => do (← options.addType false value).read rest
    else if argument = compiledOption then
      match rest with
      | [] => .error (.missingValue compiledOption)
      | path :: rest => (options.addCompiled path).read rest
    else do (← options.takeOther argument).read rest

/-- Reads the arguments of a run; the output may ask for colour by itself. -/
def Request.ofArguments (arguments : List String) (color : Bool) :
    Except UsageError Request :=
  (Options.start color).read arguments

end ContractRules.Command
