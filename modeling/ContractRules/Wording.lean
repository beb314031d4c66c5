/-!
# Wordings — texts in the reader's language

Titles look up texts by key and have a fallback for every key that is not found.
Where the texts are kept is the caller's business; a table is one way.
-/

namespace ContractRules

/-- The text under a key, if there is one. -/
abbrev Wording := String → Option String

namespace Wording

/-- A wording that knows no text. -/
def none : Wording := fun _ => .none

/-- A wording kept as a table. Of several texts under one key the last counts. -/
def ofTable (table : List (String × String)) : Wording := fun key =>
  (table.reverse.find? (·.1 == key)).map (·.2)

end Wording

end ContractRules
