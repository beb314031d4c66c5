import ContractRules.Proofs.Block.Numbering
import ContractRules.Proofs.Text.Layout
import Mathlib.Logic.Relation

/-! # Layout — texts that read alike

    A text is read as the row of its numbered lines.  Layout within the lines
    leaves that row as it is (`numbered_lines_of_relaid`), so nothing comes of it.
    Lines that are put in between leave the row as it is but for the numbers
    (`numbered_interspersed`), so the same comes of it, and an error points as
    many lines further down as were put in above it. -/

namespace ContractRules.Block

open Text

/-! ## Within the lines -/

/-- A line in front of whole lines, or at the end of a text, is one more line for
    the reader, even if there is nothing of it. -/
theorem numbered_lines_append {line rest : List Char} (hline : '\n' ∉ line)
    (hrest : rest = [] ∨ rest.head? = some '\n') (above : Nat) :
    numbered above (lines (line ++ rest)) =
      numbered above (line :: lines rest.tail) := by
  cases rest with
  | nil =>
      rw [List.append_nil]
      by_cases hne : line = []
      · rw [hne]
        exact (numbered_cons_of_nil rfl above []).symm
      · rw [lines_eq_singleton hline hne]
        rfl
  | cons c rest =>
      obtain rfl : c = '\n' := Option.some.inj (hrest.resolve_left nofun)
      rw [lines_append_line hline, List.tail_cons]

/-- Layout that is added to one line leaves the numbered lines as they are. -/
theorem numbered_lines_of_relaid {text other : List Char} (h : Relaid text other) :
    numbered 0 (lines other) = numbered 0 (lines text) := by
  obtain ⟨front, line, relaid, rest, rfl, rfl, hfront, hline, hrelaid, hrest, hsame⟩ :=
    h.exists_line
  rw [List.append_assoc, List.append_assoc, lines_append hfront, lines_append hfront,
    numbered_append, numbered_append, numbered_lines_append hrelaid hrest,
    numbered_lines_append hline hrest, numbered_cons_congr hsame]

/-- However much layout is added, the numbered lines stay as they are. -/
theorem numbered_lines_of_reflTransGen {text other : List Char}
    (h : Relation.ReflTransGen Relaid text other) :
    numbered 0 (lines other) = numbered 0 (lines text) := by
  induction h with
  | refl => rfl
  | tail _ hlast ih => rw [numbered_lines_of_relaid hlast, ih]

/-! ## Between the lines -/

/-- Lines that are put in between and say nothing leave the numbered lines as they
    are, but for their numbers. -/
theorem numbered_interspersed {added : Nat → List (List Char)}
    (hsilent : ∀ place, ∀ line ∈ added place, significant line = [])
    (number : Nat → Nat) {above more : Nat} (rows : List (List Char))
    (hnumber : ∀ place, number (above + place + 1) =
      more + place + 1 + addedAbove added (place + 1)) :
    numbered more (interspersed added rows) =
      (numbered above rows).map fun row => (number row.1, row.2) := by
  induction rows generalizing added above more with
  | nil =>
      have hnone := numbered_append_of_silent (hsilent 0) more []
      rw [List.append_nil] at hnone
      exact hnone
  | cons line rows ih =>
      -- what is put in above the line shifts it, and all lines behind it
      have hline : number (above + 1) = more + (added 0).length + 1 := by
        have hfirst : number (above + 1) = more + 1 + addedAbove added (0 + 1) :=
          hnumber 0
        have hnone : addedAbove (fun place => added (place + 1)) 0 = 0 := rfl
        rw [hfirst, addedAbove_succ, hnone]
        omega
      have hrest : ∀ place, number (above + 1 + place + 1) =
          more + (added 0).length + 1 + place + 1 +
            addedAbove (fun place => added (place + 1)) (place + 1) := by
        intro place
        have hplace := hnumber (place + 1)
        rw [addedAbove_succ] at hplace
        rw [show above + 1 + place + 1 = above + (place + 1) + 1 by omega, hplace]
        omega
      have hrows := ih (fun place => hsilent (place + 1)) hrest
      rw [interspersed, numbered_append_of_silent (hsilent 0)]
      cases hsaid : significant line with
      | nil => rw [numbered_cons_of_nil hsaid, numbered_cons_of_nil hsaid, hrows]
      | cons c said =>
          rw [numbered_cons_of_cons hsaid, numbered_cons_of_cons hsaid, hrows,
            List.map_cons, hline]

/-- Lines that are put in between make no difference but to the numbers of lines. -/
theorem ofLines_interspersed {added : Nat → List (List Char)}
    (hsilent : ∀ place, ∀ line ∈ added place, significant line = [])
    (rows : List (List Char)) :
    ofLines (interspersed added rows) = (ofLines rows).mapError
      (·.renumbered fun line => line + addedAbove added line) := by
  have hrows : numbered 0 (interspersed added rows) =
      (numbered 0 rows).map fun row => (row.1 + addedAbove added row.1, row.2) := by
    refine numbered_interspersed hsilent (fun line => line + addedAbove added line)
      rows ?_
    intro place
    simp only [Nat.zero_add]
  have hread := read_renumbered (fun line => line + addedAbove added line) []
    .start (numbered 0 rows)
  rw [ofLines_eq_read, ofLines_eq_read, hrows]
  refine hread.trans ?_
  cases Progress.start.read (numbered 0 rows) <;> rfl

/-- **Layout never matters.**  Whatever is added to a text around its lines, and
    however often, it reads as it did: as the same blocks, or with the same error
    at the same line.  Lines that say nothing can be put in between anywhere: the
    blocks stay the same, and so does the error, but for its line, which moves by
    the number of lines that are put in above it. -/
theorem ofText_layout (text : String) :
    (∀ other : String, Relation.ReflTransGen Relaid text.toList other.toList →
      ofText other = ofText text) ∧
    ∀ (other : String) (added : Nat → List (List Char)),
      (∀ place, ∀ line ∈ added place, IsSilent line) →
      Text.lines other.toList = interspersed added (Text.lines text.toList) →
      ofText other = (ofText text).mapError
        (·.renumbered fun line => line + addedAbove added line) := by
  constructor
  · intro other h
    rw [ofText, ofText, ofLines_eq_read, ofLines_eq_read,
      numbered_lines_of_reflTransGen h]
  · intro other added hsilent hlines
    rw [ofText, ofText, hlines]
    exact ofLines_interspersed
      (fun place line hmem => (hsilent place line hmem).significant_eq_nil) _

/-- Some lines for the text below: a comment and an empty line above its heading,
    and an indented comment below it. -/
def addedAround : Nat → List (List Char)
  | 0 => [['/', '/'], []]
  | 1 => [" // note".toList]
  | _ => []

/-- A heading that is not opened keeps its line when layout is added around it,
    and moves when lines are put in above it, but not when they are put in below. -/
theorem ofText_layout_heading :
    ofText "B\nk = v" = .error (.notOpened 1 "B") ∧
      ofText "\u3000B // note\r\nk = v" = .error (.notOpened 1 "B") ∧
      ofText "//\n\nB\n // note\nk = v" = .error (.notOpened 3 "B") := by
  have hread : ofText "B\nk = v" = .error (.notOpened 1 "B") := rfl
  -- the second text comes of the first by three edits, one after the other
  have hindent : Relaid "B\nk = v".toList "\u3000B\nk = v".toList := by
    show Relaid ([] ++ ['B'] ++ "\nk = v".toList)
      ([] ++ (['\u3000'] ++ ['B']) ++ "\nk = v".toList)
    exact .line (Or.inl rfl) (by decide) .feed
      (.before ⟨List.all_eq_true.mp rfl, by decide⟩)
  have hnote : Relaid "\u3000B\nk = v".toList "\u3000B // note\nk = v".toList := by
    show Relaid ([] ++ ['\u3000', 'B'] ++ "\nk = v".toList)
      ([] ++ (['\u3000', 'B'] ++ [' '] ++ commentMark ++ " note".toList) ++
        "\nk = v".toList)
    exact .line (Or.inl rfl) (by decide) .feed
      (.note ⟨List.all_eq_true.mp rfl, by decide⟩ (List.cons_ne_nil _ _) (by decide))
  have hreturn : Relaid "\u3000B // note\nk = v".toList
      "\u3000B // note\r\nk = v".toList := by
    show Relaid ("\u3000B // note".toList ++ '\n' :: "k = v".toList)
      ("\u3000B // note".toList ++ '\r' :: '\n' :: "k = v".toList)
    exact .lineEnd
  -- and the third by silent lines around the first
  have hsilent : ∀ place, ∀ line ∈ addedAround place, IsSilent line := by
    have hmark : IsSilent ([] ++ commentMark ++ []) := .note nofun
    have hempty : IsSilent [] := .blank nofun
    have hindented : IsSilent ([' '] ++ commentMark ++ " note".toList) :=
      .note (List.all_eq_true.mp rfl)
    intro place line hmem
    match place with
    | 0 =>
        rcases List.mem_cons.mp hmem with rfl | hmem
        · exact hmark
        · exact List.mem_singleton.mp hmem ▸ hempty
    | 1 => exact List.mem_singleton.mp hmem ▸ hindented
    | _ + 2 => exact absurd hmem List.not_mem_nil
  refine ⟨hread, ?_, ?_⟩
  · rw [(ofText_layout "B\nk = v").1 _
      (((Relation.ReflTransGen.single hindent).tail hnote).tail hreturn)]
    exact hread
  · rw [(ofText_layout "B\nk = v").2 _ addedAround hsilent rfl, hread]
    rfl

end ContractRules.Block
