import ContractRules.Block.Basic

/-!
# The written form of a block

The name, an opening brace, one indented line per entry and a closing brace, each
on a line of its own. Values are written as they are: there is no escape, so a
value that holds `//`, a line feed or blanks at its ends does not read back.
-/

namespace ContractRules.Block

/-- The line of one entry. -/
def entryLine (entry : String × String) : String :=
  "    " ++ entry.1 ++ " = " ++ entry.2 ++ "\n"

/-- The text of a block. -/
def render (block : Block) : String :=
  block.name ++ "\n\x7b\n" ++ String.join (block.entries.map entryLine) ++ "\x7d\n"

/-- The text of a document: its blocks one after the other. -/
def renderAll (blocks : List Block) : String := String.join (blocks.map render)

end ContractRules.Block
