import ContractRules.Command.Arguments
import ContractRules.Command.Report

/-!
# Running the command

A run is a function of its arguments, of what it can read, and of the time that is
shown as elapsed. It ends with an exit code:

* 0 if every definition is valid, or help or the version was asked for;
* 1 if a definition failed or the text is no document;
* 2 if the arguments make no sense, the input cannot be read or is blank, or the
  contract types cannot be registered together.

Reports go to the standard output. The log of a run and the error that stops it go to
the standard error; how the log is written down is left to a recorder.
-/

namespace ContractRules.Command

/-- The name and the version of the command. -/
def versionText : String := "contractor 0.1.0"

/-- The text that explains the command. -/
def helpText : String :=
  versionText ++ "

Validate contract requirement and parameter definitions.

Usage:
  contractor [OPTIONS] [FILE]

Reads FILE, or stdin when FILE is omitted or '-'.

Options:
  --type <NAME[=TITLE]>      Register a declarative contract type.
  --invalid-type <NAME>      Register a declarative contract type that failed
                             its own load (resolvable, never used as a title).
  --compiled <PATH>          Register a compiled contract type, e.g.
                             Contracts.Templates.PartTest.
  --save                     Print the saved session state of each requirement.
  --color                    Force ANSI color output.
  --no-color                 Disable ANSI color output.
  -h, --help                 Show this help message.
  -V, --version              Print version information.

Environment:
  RUST_LOG                   Log filter (default: warn).

Exit codes:
  0  Every definition is valid.
  1  At least one definition failed, or the input is malformed.
  2  Invalid arguments or missing input.
"

/-- What a source holds: its bytes, or the reason why they cannot be read. -/
abbrev Source := Except String ByteArray

/-- Bytes are a source that can be read. -/
instance : Coe ByteArray Source := ⟨.ok⟩

/-- What a run can read. -/
structure Environment where
  standardInput : Source
  /-- What there is at a path. -/
  file : String → Source

/-- Why there is no text to validate. -/
inductive InputError where
  /-- The standard input has no text, for this reason. -/
  | standardInput (reason : String)
  /-- The file at this path has no text, for this reason. -/
  | file (path reason : String)
  /-- The text is blank. -/
  | blank
  deriving Repr, DecidableEq

/-- The wording of an error. -/
def InputError.message : InputError → String
  | standardInput reason => "failed to read stdin: " ++ reason
  | file path reason => s!"failed to read '{path}': {reason}"
  | blank => "no input provided\n\n" ++ helpText

/-- The text that some bytes encode. -/
def decodeText (bytes : ByteArray) : Except String String :=
  match String.fromUTF8? bytes with
  | some text => .ok text
  | none => .error "stream did not contain valid UTF-8"

/-- The file that an input names; without a name, and for a hyphen, it is none. -/
def inputPath? : Option String → Option String
  | none => none
  | some path => if path = "-" then none else some path

/-- Reads the text of an input, which must not be blank. -/
def readInput (environment : Environment) (input? : Option String) :
    Except InputError String := do
  let text ← match inputPath? input? with
    | none => (environment.standardInput >>= decodeText).mapError .standardInput
    | some path =>
      (environment.file path >>= decodeText).mapError (.file path)
  if Text.trim text.toList = [] then throw .blank
  return text

/-- How a run ends. -/
structure Result where
  exit : Nat
  standardOutput : String
  /-- The error that stopped the run, as it is written down; without one, nothing. -/
  complaint : String
  /-- What the run told its log. -/
  events : List Event
  deriving Repr, DecidableEq

namespace Result

/-- The end of a run that shows something. -/
def shown (exit : Nat) (text : String) (events : List Event := []) : Result :=
  ⟨exit, text, "", events⟩

/-- The end of a run that an error stops. -/
def stopped (exit : Nat) (message : String) (events : List Event := []) : Result :=
  ⟨exit, "", "error: " ++ message ++ "\n", events⟩

/-- What a run writes to the standard error: its log, and behind it the error that
    stopped it. -/
def standardError (result : Result) (recorder : Recorder := .off) : String :=
  recorder result.events ++ result.complaint

end Result

/-- Validates a text with the options of a run. -/
def validate (options : Options) (text elapsed : String) : Result :=
  let built := options.types.buildLogged
  match built.value with
  | .error fault => .stopped 2 fault.message built.events
  | .ok registry =>
    match Contents.ofText registry text with
    | .error fault => .stopped 1 fault.message built.events
    | .ok contents =>
      let lines := reportLines registry .none contents.value options.showSaved elapsed
      .shown (if contents.value.isValid then 0 else 1) (renderLines options.color lines)
        (built.events ++ contents.events)

/-- Does what a request asks for. -/
def Request.run (environment : Environment) (elapsed : String) : Request → Result
  | help => .shown 0 (helpText ++ "\n")
  | version => .shown 0 (versionText ++ "\n")
  | validate options =>
    match readInput environment options.input? with
    | .error fault => .stopped 2 fault.message
    | .ok text => Command.validate options text elapsed

/-- A whole run. -/
def run (arguments : List String) (environment : Environment) (color : Bool)
    (elapsed : String) : Result :=
  match Request.ofArguments arguments color with
  | .error fault => .stopped 2 fault.message
  | .ok request => request.run environment elapsed

end ContractRules.Command
