/-!
# Styled text — colour as an afterthought

A line of output is a row of pieces, each plain or in one style. Colour is decided
when the line is written: with colour a styled piece stands between the sequence
that turns its style on and the one that turns all styles off, and without colour
only its text is written. So the content never depends on the colour.
-/

namespace ContractRules.Command

/-- The styles of the output. -/
inductive Style where
  | bold
  | dim
  | red
  | green
  | yellow
  | cyan
  | gray
  deriving Repr, DecidableEq

/-- The number that turns a style on. -/
def Style.code : Style → String
  | bold => "1"
  | dim => "2"
  | red => "31"
  | green => "32"
  | yellow => "33"
  | cyan => "36"
  | gray => "90"

/-- The control sequence with a number. -/
def controlSequence (code : String) : String := "\x1b[" ++ code ++ "m"

/-- A piece of a line, in a style or plain. -/
structure Piece where
  style? : Option Style
  text : String
  deriving Repr, DecidableEq

namespace Piece

/-- A piece without a style. -/
def plain (text : String) : Piece := ⟨none, text⟩

instance : Coe String Piece := ⟨plain⟩

/-- What is written for a piece. -/
def render (color : Bool) (piece : Piece) : String :=
  match piece.style? with
  | some style =>
    if color then controlSequence style.code ++ piece.text ++ controlSequence "0"
    else piece.text
  | none => piece.text

end Piece

/-- A piece in this style. -/
def Style.piece (style : Style) (text : String) : Piece := ⟨some style, text⟩

/-- A line of output. -/
abbrev Line := List Piece

/-- What is written for some lines. -/
def renderLines (color : Bool) (lines : List Line) : String :=
  String.join (lines.map fun line => String.join (line.map (·.render color)) ++ "\n")

/-- A line ends before the next one begins. -/
theorem renderLines_cons (color : Bool) (line : Line) (lines : List Line) :
    renderLines color (line :: lines) =
      String.join (line.map (·.render color)) ++ "\n" ++ renderLines color lines := by
  rw [renderLines, List.map_cons, String.join_cons]
  rfl

/-- Lines are written one after the other. -/
theorem renderLines_append (color : Bool) (first second : List Line) :
    renderLines color (first ++ second) =
      renderLines color first ++ renderLines color second := by
  rw [renderLines, List.map_append, String.join_append]
  rfl

theorem renderLines_flatMap {α : Type} (color : Bool) (lines : α → List Line)
    (values : List α) :
    renderLines color (values.flatMap lines) =
      String.join (values.map fun value => renderLines color (lines value)) := by
  induction values with
  | nil => rfl
  | cons value rest ih =>
    rw [List.flatMap_cons, renderLines_append, ih, List.map_cons, String.join_cons]

end ContractRules.Command
