import ContractRules.Block.Basic
import ContractRules.Block.Format

/-!
# Reading a document of blocks

The reader goes through the lines once. Between lines it knows how many it has
read, which blocks are complete, and its **stage**: outside of any block, waiting
for the opening brace of a heading, or inside a block. Lines without significant
text count but change nothing else.

A heading that is not opened is reported at the heading's own line, however many
blank lines and comments lie between it and the line that gives it away; every
other error is reported where it is seen.
-/

namespace ContractRules.Block

/-- Where the reader is between two lines. -/
inductive Stage where
  | outside
  /-- The heading at this line still lacks its opening brace. -/
  | awaiting (line : Nat) (name : String)
  /-- Inside the block, with the entries read so far. -/
  | inside (name : String) (entries : Array (String × String))
  deriving Repr, DecidableEq

/-- What the reader knows between two lines. -/
structure Progress where
  /-- Lines read so far. -/
  line : Nat
  /-- Complete blocks, in the order of the text. -/
  blocks : Array Block
  stage : Stage
  deriving Repr, DecidableEq

namespace Progress

/-- Before the first line. -/
def start : Progress := ⟨0, #[], .outside⟩

/-- Takes one significant line, which has this number, in the current stage. -/
def take (progress : Progress) (number : Nat) (line : List Char) :
    Except FormatError Progress :=
  match progress.stage, LineForm.of line with
  | .awaiting _ name, .opening =>
    .ok ⟨number, progress.blocks, .inside name #[]⟩
  | .awaiting heading name, _ => .error (.notOpened heading name)
  | .inside name entries, .closing =>
    .ok ⟨number, progress.blocks.push ⟨name, entries.toList⟩, .outside⟩
  | .inside _ _, .heading name _ =>
    .error (.nested number (String.ofList name))
  | .inside name entries, .entry key value =>
    .ok ⟨number, progress.blocks,
      .inside name (entries.push (String.ofList key, String.ofList value))⟩
  | .outside, .closing => .error (.strayClose number)
  | .outside, .heading name true =>
    .ok ⟨number, progress.blocks, .inside (String.ofList name) #[]⟩
  | .outside, .heading name false =>
    .ok ⟨number, progress.blocks, .awaiting number (String.ofList name)⟩
  | .outside, .entry _ _ => .error (.strayEntry number)
  | _, _ => .error (.notAnEntry number (String.ofList line))

/-- Takes the next line of the text as it stands. -/
def next (progress : Progress) (line : List Char) :
    Except FormatError Progress :=
  match Text.significant line with
  | [] => .ok { progress with line := progress.line + 1 }
  | c :: rest => progress.take (progress.line + 1) (c :: rest)

/-- The blocks read, if the text may end here. -/
def finish (progress : Progress) : Except FormatError (List Block) :=
  match progress.stage with
  | .outside => .ok progress.blocks.toList
  | .awaiting line name => .error (.notOpened line name)
  | .inside name _ => .error (.notClosed name)

end Progress

/-- Reads the blocks from the lines of a text. -/
def ofLines (lines : List (List Char)) : Except FormatError (List Block) := do
  (← lines.foldlM Progress.next .start).finish

/-- Reads the blocks of a text. -/
def ofText (text : String) : Except FormatError (List Block) :=
  ofLines (Text.lines text.toList)

end ContractRules.Block
