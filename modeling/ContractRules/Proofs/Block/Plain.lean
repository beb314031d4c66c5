import ContractRules.Proofs.Block.Recognition
import ContractRules.Proofs.Text.Plain

/-! # Plain blocks — the reader makes up no characters

    The reader of blocks cuts names and values out of the lines of its text.  So if
    the text is plain then all of its blocks are (`isPlain_of_ofText`). -/

namespace ContractRules.Block

open Text

/-- A block whose name and values are plain. -/
structure IsPlain (block : Block) : Prop where
  name : Text.IsPlain block.name
  values : ∀ entry ∈ block.entries, Text.IsPlain entry.2

variable {text : String} {block : Block} {blocks : List Block}

/-- All values of a plain block are plain. -/
theorem IsPlain.all (h : block.IsPlain) (key : String) :
    ∀ value ∈ block.all key, Text.IsPlain value := by
  intro value hmem
  obtain ⟨entry, hentry, rfl⟩ := List.mem_map.mp hmem
  exact h.values entry (List.mem_filter.mp hentry).1

theorem IsPlain.first? (h : block.IsPlain) {key value : String}
    (hfirst : block.first? key = some value) : Text.IsPlain value := by
  rw [first?_eq_head?] at hfirst
  exact h.all key value (List.mem_of_mem_head? hfirst)

/-- The value of an entry is cut out of its line. -/
theorem IsEntry.isPlain {line : List Char} {entry : String × String}
    (h : IsEntry line entry) (htext : Text.IsPlain text) (hline : line ⊆ text.toList) :
    Text.IsPlain entry.2 := by
  obtain ⟨-, -⟩ := h
  refine htext.ofList fun c hmem => hline ?_
  exact List.mem_append_right _ (List.mem_cons_of_mem _ (mem_of_mem_trim hmem))

/-- The name of a block is cut out of its header. -/
theorem IsHeader.isPlain {lines : List (List Char)} {name : List Char}
    (h : IsHeader lines name) (htext : Text.IsPlain text)
    (hlines : ∀ line ∈ lines, line ⊆ text.toList) : Text.IsPlain (String.ofList name) := by
  refine htext.ofList ?_
  cases h with
  | apart => exact hlines _ List.mem_cons_self
  | inline =>
      intro c hmem
      exact hlines _ List.mem_cons_self
        (List.mem_append_left _ (List.mem_append_left _ hmem))

/-- The values of a body are parts of its lines, and as plain as these. -/
theorem isPlain_of_body {body : List (List Char)} {entries : List (String × String)}
    (h : List.Forall₂ IsEntry body entries) (htext : Text.IsPlain text)
    (hlines : ∀ line ∈ body, line ⊆ text.toList) :
    ∀ entry ∈ entries, Text.IsPlain entry.2 := by
  induction h with
  | nil => exact fun _ hmem => absurd hmem List.not_mem_nil
  | cons hentry _ ih =>
      rw [List.forall_mem_cons] at hlines ⊢
      exact ⟨hentry.isPlain htext hlines.1, ih hlines.2⟩

/-- The blocks of a document are made of its lines, and as plain as these. -/
theorem IsDocument.isPlain {lines : List (List Char)} (h : IsDocument lines blocks)
    (htext : Text.IsPlain text) (hlines : ∀ line ∈ lines, line ⊆ text.toList) :
    ∀ block ∈ blocks, block.IsPlain := by
  induction h with
  | nil => exact fun _ hmem => absurd hmem List.not_mem_nil
  | cons hblock _ ih =>
      rw [List.forall_mem_append] at hlines
      rw [List.forall_mem_cons]
      refine ⟨?_, ih hlines.2⟩
      obtain ⟨hheader, hbody⟩ := hblock
      obtain ⟨⟨hheaderLines, hbodyLines⟩, -⟩ :=
        (List.forall_mem_append.mp hlines.1).imp_left List.forall_mem_append.mp
      exact ⟨hheader.isPlain htext hheaderLines, isPlain_of_body hbody htext hbodyLines⟩

/-- **All that is read from a plain text is plain.** -/
theorem isPlain_of_ofText (h : ofText text = .ok blocks) (htext : Text.IsPlain text) :
    ∀ block ∈ blocks, block.IsPlain :=
  ((ofText_eq_ok_iff text blocks).mp h).isPlain htext
    fun _ hmem => subset_of_mem_significantLines hmem

end ContractRules.Block
