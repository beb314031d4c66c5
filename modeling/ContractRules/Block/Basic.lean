/-!
# Blocks — named lists of entries

A block is the only form in which definitions and saved state are kept: a name
and an ordered list of `(key, value)` entries. Keys may repeat; a list is spelled
by repeating its key. Nothing is typed here, types are imposed when a field is
read.
-/

namespace ContractRules

/-- A named, ordered list of entries, each a key with its value. -/
structure Block where
  name : String
  entries : List (String × String)
  deriving Repr, DecidableEq

namespace Block

/-- A block without entries. -/
def empty (name : String) : Block := ⟨name, []⟩

/-- Every value under a key, in the order of the block. -/
def all (block : Block) (key : String) : List String :=
  (block.entries.filter (·.1 == key)).map (·.2)

/-- The first value under a key. -/
def first? (block : Block) (key : String) : Option String :=
  (block.entries.find? (·.1 == key)).map (·.2)

/-- Whether some entry has the key. -/
def has (block : Block) (key : String) : Bool :=
  (block.first? key).isSome

/-- Adds an entry at the end; entries with the same key stay. -/
def add (block : Block) (key value : String) : Block :=
  { block with entries := block.entries ++ [(key, value)] }

/-- Adds entries at the end, in their order. -/
def append (block : Block) (entries : List (String × String)) : Block :=
  { block with entries := block.entries ++ entries }

/-- The first value is the head of all values. -/
theorem first?_eq_head? (block : Block) (key : String) :
    block.first? key = (block.all key).head? := by
  simp [first?, all, List.head?_filter]

@[simp] theorem all_add (block : Block) (key value other : String) :
    (block.add key value).all other =
      block.all other ++ if key = other then [value] else [] := by
  by_cases h : key = other <;> simp [add, all, h, List.filter_append]

end Block

end ContractRules
