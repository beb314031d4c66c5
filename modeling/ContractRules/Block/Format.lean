import ContractRules.Text.Line

/-!
# The lines of the block format

The format knows four kinds of significant line. A heading is a name, a letter or
an underscore followed by letters, digits, underscores and hyphens (ASCII only),
optionally with the opening brace behind it. An entry has an equals sign that is
not its first character; the first one divides key and value. A brace alone opens
or closes. No line is of two kinds, because a heading holds no equals sign.

`FormatError` lists the ways in which a text can break the format.
-/

namespace ContractRules.Block

/-- What one significant line of a document is. -/
inductive LineForm where
  /-- An opening brace alone. -/
  | opening
  /-- A closing brace alone. -/
  | closing
  /-- A block name, with or without its opening brace. -/
  | heading (name : List Char) (opened : Bool)
  /-- A key and its value. -/
  | entry (key value : List Char)
  /-- Anything else. -/
  | other
  deriving Repr, DecidableEq

/-- Whether a character can start a block name. -/
def isNameStart (c : Char) : Bool :=
  c.isAlpha || c == '_'

/-- Whether a character can continue a block name. -/
def isNameRest (c : Char) : Bool :=
  c.isAlphanum || c == '_' || c == '-'

/-- Reads a line as a heading: the name, and whether the brace follows it. -/
def heading? : List Char → Option (List Char × Bool)
  | [] => none
  | c :: rest =>
    if isNameStart c then
      let name := c :: rest.takeWhile isNameRest
      match Text.trimStart (rest.dropWhile isNameRest) with
      | [] => some (name, false)
      | ['\x7b'] => some (name, true)
      | _ => none
    else none

/-- Reads a line as an entry: the trimmed texts around the first equals sign,
    which must not be the first character. -/
def entry? (line : List Char) : Option (List Char × List Char) :=
  match line.takeWhile (· != '='), line.dropWhile (· != '=') with
  | [], _ => none
  | _, [] => none
  | key, _ :: value => some (Text.trim key, Text.trim value)

/-- The kind of a significant line. -/
def LineForm.of (line : List Char) : LineForm :=
  if line = ['\x7b'] then .opening
  else if line = ['\x7d'] then .closing
  else match heading? line with
    | some (name, opened) => .heading name opened
    | none =>
      match entry? line with
      | some (key, value) => .entry key value
      | none => .other

/-- A way in which a text breaks the block format. Lines count from one. -/
inductive FormatError where
  /-- A line that is neither a brace, a heading nor an entry. -/
  | notAnEntry (line : Nat) (text : String)
  /-- A heading inside a block. -/
  | nested (line : Nat) (name : String)
  /-- An entry outside of any block. -/
  | strayEntry (line : Nat)
  /-- A closing brace outside of any block. -/
  | strayClose (line : Nat)
  /-- A heading, at this line, that no opening brace follows. -/
  | notOpened (line : Nat) (name : String)
  /-- A block that the text ends in. -/
  | notClosed (name : String)
  deriving Repr, DecidableEq

namespace FormatError

/-- The line that an error points at; a block left open points at none. -/
def line? : FormatError → Option Nat
  | notAnEntry line _ | nested line _ | strayEntry line
  | strayClose line | notOpened line _ => some line
  | notClosed _ => none

/-- The wording of an error. -/
def message : FormatError → String
  | notAnEntry line text =>
    s!"line {line}: expected 'key = value', found '{text}'"
  | nested line name =>
    s!"line {line}: '{name}' opens a nested block; config nodes are flat"
  | strayEntry line => s!"line {line}: value outside of a block"
  | strayClose line => s!"line {line}: '\x7d' without a matching block"
  | notOpened line name =>
    s!"line {line}: block '{name}' is missing its opening '\x7b'"
  | notClosed name => s!"block '{name}' is never closed"

end FormatError

end ContractRules.Block
