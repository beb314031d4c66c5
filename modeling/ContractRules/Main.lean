import ContractRules.Command.Run

/-!
# The command line

Reads what a run asks for, runs it, and writes what comes out. Everything that is
decided is decided in `Command.run`. The time shown as elapsed is the time until
the input was read. The log has a line for each warning and for each error.
-/

open ContractRules

/-- A number of thousandths as a decimal, with a unit. -/
def thousandths (n : Nat) (unit : String) : String :=
  let rest := toString (n % 1000)
  let padded := String.ofList (List.replicate (3 - rest.length) '0') ++ rest
  toString (n / 1000) ++ "." ++ padded ++ unit

/-- A time in nanoseconds, in a unit that suits it. -/
def elapsedText (nanoseconds : Nat) : String :=
  if nanoseconds < 1000 then toString nanoseconds ++ "ns"
  else if nanoseconds < 1000000 then thousandths nanoseconds "µs"
  else thousandths (nanoseconds / 1000) "ms"

/-- What a reading gives, or the system's reason why it gives nothing. -/
def readSource (reading : IO ByteArray) : IO Command.Source := do
  try
    return .ok (← reading)
  catch failure =>
    return .error (match failure with
      | .noFileOrDirectory .. => "No such file or directory (os error 2)"
      | other => toString other)

/-- The sources of a run. Only the one that its input needs is read. -/
def readEnvironment (request : Except Command.UsageError Command.Request) :
    IO Command.Environment := do
  let unread : Command.Source := .ok .empty
  match request with
  | .ok (.validate options) =>
    match Command.inputPath? options.input? with
    | none =>
      let input ← readSource (do (← IO.getStdin).readBinToEnd)
      return ⟨input, fun _ => unread⟩
    | some path =>
      let content ← readSource (IO.FS.readBinFile path)
      return ⟨unread, fun _ => content⟩
  | _ => return ⟨unread, fun _ => unread⟩

def main (arguments : List String) : IO UInt32 := do
  let start ← IO.monoNanosNow
  let color ← (← IO.getStdout).isTty
  let environment ← readEnvironment (Command.Request.ofArguments arguments color)
  let elapsed := elapsedText ((← IO.monoNanosNow) - start)
  let result := Command.run arguments environment color elapsed
  (← IO.getStdout).putStr result.standardOutput
  (← IO.getStderr).putStr (result.standardError (.lines .warn))
  return result.exit.toUInt32
