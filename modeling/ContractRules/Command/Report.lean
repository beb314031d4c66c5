import ContractRules.Command.Styled
import ContractRules.Document
import ContractRules.Requirement.Session
import ContractRules.Requirement.Title

/-!
# The report — what the command shows of a document

The report has a section for the registered declarative types, the requirements,
the parameters, the blocks that were passed over and the diagnostics; the last two
only if there are any. A summary closes it. Diagnostics stand under their owner,
so their owner is not repeated.
-/

namespace ContractRules.Command

/-- The heading of a section, after an empty line. -/
def sectionHeading (title : String) : List Line :=
  [[], [Style.gray.piece ("━━━ " ++ title ++ " ━━━")]]

/-- The line of a section without content. -/
def emptySection (text : String) : List Line := [[Style.dim.piece text]]

/-- The text in place of lines, if there are none. -/
def linesOr (text : String) (lines : List Line) : List Line :=
  if lines.isEmpty then emptySection text else lines

/-- The line of a declarative type. -/
def typeLine (type : DeclarativeType) : Line :=
  [.plain "  ", (if type.valid then Style.cyan else Style.yellow).piece "•",
   .plain (" " ++ type.name ++ " "), Style.dim.piece ("\"" ++ type.title ++ "\"")]

/-- The pieces that announce a definition by its name and kind. -/
def announcement (name kind : String) : Line :=
  [.plain "  ", Style.green.piece "✓", .plain " ", Style.bold.piece name, .plain " ",
   Style.dim.piece ("(" ++ kind ++ ")")]

/-- A line that belongs to the one above. -/
def detail (piece : Piece) : Line := [.plain "      ", piece]

/-- The lines of a requirement: its name, its title and perhaps its saved form. -/
def requirementLines (registry : Registry) (wording : Wording) (showSaved : Bool)
    (requirement : Requirement) : List Line :=
  let saved := requirement.saved.map fun entry =>
    detail (Style.dim.piece (entry.1 ++ " = " ++ entry.2))
  announcement requirement.base.name requirement.base.kind ::
    detail (.plain (requirement.title registry wording)) ::
      if showSaved then saved else []

/-- The line of a parameter. -/
def parameterLine (parameter : Parameter) : Line :=
  let base := parameter.base
  let title := match base.title? with
    | some title => " \"" ++ title ++ "\""
    | none => ""
  announcement base.name base.kind ++ [.plain title]

/-- The line of a block that was passed over. -/
def skippedLine (name : String) : Line :=
  [.plain "  ", Style.yellow.piece "•", .plain (" " ++ name)]

/-- The text of a diagnostic without its owner, which the heading above has said. A
    text that does not begin with the owner is shown whole. -/
def describe (diagnostic : Diagnostic) : String :=
  let mark := (diagnostic.owner ++ ": ").toList
  let text := diagnostic.text.toList
  if mark <+: text then String.ofList (text.drop mark.length) else diagnostic.text

/-- As the text of a diagnostic begins with its owner, its problem is what is shown. -/
theorem describe_eq (diagnostic : Diagnostic) :
    describe diagnostic = diagnostic.problem.message := by
  have htext : diagnostic.text.toList =
      (diagnostic.owner ++ ": ").toList ++ diagnostic.problem.message.toList := by
    rw [Diagnostic.text, String.toList_append]
  rw [describe, htext, if_pos (List.prefix_append _ _), List.drop_left, String.ofList_toList]

/-- The lines of a failure: its owner, and its diagnostics without it. -/
def failureLines (failure : LoadFailure) : List Line :=
  [.plain "  ", Style.red.piece "✗", .plain " ", Style.bold.piece failure.owner,
   .plain " ", Style.dim.piece s!"({failure.diagnostics.length} error(s))"] ::
    failure.diagnostics.map fun diagnostic => detail (.plain (describe diagnostic))

/-- The lines that sum up a document. -/
def summaryLines (contents : Contents) (elapsed : String) : List Line :=
  let failed := contents.failures.length
  [[.plain "  Loaded: ",
    Style.green.piece (toString contents.definitions.length),
    .plain "  │  Failed: ",
    (if failed = 0 then Style.green else Style.red).piece (toString failed),
    .plain "  │  Elapsed: ", Style.cyan.piece elapsed],
   []]

/-- A section that is left out when it has no lines. -/
def optionalSection (title : String) (lines : List Line) : List Line :=
  if lines.isEmpty then [] else sectionHeading title ++ lines

/-- The report on a document, with the time that loading it took. -/
def reportLines (registry : Registry) (wording : Wording) (contents : Contents)
    (showSaved : Bool) (elapsed : String) : List Line :=
  sectionHeading "Registry" ++
    linesOr "  no declarative types" (registry.declarative.map typeLine) ++
  sectionHeading "Requirements" ++
    linesOr "  none"
      (contents.requirements.flatMap (requirementLines registry wording showSaved)) ++
  sectionHeading "Parameters" ++
    linesOr "  none" (contents.parameters.map parameterLine) ++
  optionalSection "Skipped" (contents.skipped.map skippedLine) ++
  optionalSection "Diagnostics" (contents.failures.flatMap failureLines) ++
  sectionHeading "Summary" ++ summaryLines contents elapsed

end ContractRules.Command
