import ContractRules.Requirement.Basic
import ContractRules.Wording
import ContractRules.Field.Value

/-!
# Titles of requirements

A title that the definition gives is used as it is. Otherwise the title says what
is counted, how many are needed, and of which contracts. The contracts go by the
reader's own word for the tag, or by the title of their type, as long as the
registry has one.
-/

namespace ContractRules

/-- The key under which a wording keeps what contracts with a tag are called. -/
def tagTitleKey (tag : String) : String := "#cc.contracttag.OfType." ++ tag

/-- What the contracts of a target are called. -/
def Target.title (registry : Registry) (wording : Wording) : Target → String
  | .tag name => (wording (tagTitleKey name)).getD ("of type " ++ name)
  | .type (.declarative identifier) =>
    ((registry.validNamed? identifier).map (·.title)).getD identifier
  | .type (.compiled _ entry) => entry.name

namespace Requirement

/-- How a title says which counts meet the bounds. -/
def countPhrase (least greatest : UInt32) : String :=
  if least = greatest then "exactly " ++ countText least
  else if least = 0 ∧ greatest = unbounded then "any number of"
  else if least = 0 then "at most " ++ countText greatest
  else if greatest = unbounded then "at least " ++ countText least
  else "between " ++ countText least ++ " and " ++ countText greatest

/-- What the contracts that a requirement counts are called. -/
def contractTitle (registry : Registry) (wording : Wording)
    (requirement : Requirement) : String :=
  requirement.target.title registry wording

/-- The title of a requirement. -/
def title (registry : Registry) (wording : Wording) (requirement : Requirement) :
    String :=
  match requirement.base.title? with
  | some title => title
  | none =>
    requirement.kind.phrase ++ " " ++
      countPhrase requirement.least requirement.greatest ++ " contract(s): " ++
      requirement.contractTitle registry wording

end Requirement

end ContractRules
