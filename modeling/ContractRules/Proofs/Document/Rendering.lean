import ContractRules.Document
import ContractRules.Proofs.Block.RoundTrip

/-! # Rendering — the normal form of a document

    A document that is read and written again loses its layout and its comments,
    and nothing else: every block that is read is printable, so it comes back.  The
    written form is a normal form: it is the same for two texts exactly if they hold
    the same blocks (`Block.renderAll_eq_iff`).

    Loading looks at the blocks only (`Contents.ofText_eq_of_blocks`).  So under
    every registry the normal form of a document has the contents of the document,
    and tells the same events. -/

namespace ContractRules

/-! ## The normal form -/

/-- What is read of a text is read of its written form. -/
theorem Block.ofText_renderAll_of_ofText {text : String} {blocks : List Block}
    (h : Block.ofText text = .ok blocks) :
    Block.ofText (Block.renderAll blocks) = .ok blocks :=
  Block.ofText_renderAll (Block.printable_of_ofText h)

/-- Texts have one written form exactly if they hold the same blocks. -/
theorem Block.renderAll_eq_iff {text other : String} {blocks more : List Block}
    (htext : Block.ofText text = .ok blocks) (hother : Block.ofText other = .ok more) :
    Block.renderAll blocks = Block.renderAll more ↔ blocks = more := by
  constructor
  · intro h
    have hblocks := Block.ofText_renderAll_of_ofText htext
    rw [h, Block.ofText_renderAll_of_ofText hother] at hblocks
    exact (Except.ok.inj hblocks).symm
  · intro h
    exact congrArg Block.renderAll h

namespace Contents

/-! ## Loading the normal form -/

/-- A text that reads as blocks loads as they do. -/
theorem ofText_eq_of_blocks {text : String} {blocks : List Block}
    (h : Block.ofText text = .ok blocks) (registry : Registry) :
    ofText registry text = .ok (ofBlocks registry blocks) := by
  rw [ofText, h]
  rfl

/-- **Rendering changes no meaning.**  A document reads from its written form as the
    same blocks, and under every registry both texts load: the definitions, the
    failures and the names of what is passed over are the same, and so are the
    events. -/
theorem ofText_rendered {text : String} {blocks : List Block}
    (h : Block.ofText text = .ok blocks) :
    Block.ofText (Block.renderAll blocks) = .ok blocks ∧
      ∀ registry, ∃ contents, ofText registry text = .ok contents ∧
        ofText registry (Block.renderAll blocks) = .ok contents := by
  have hrendered := Block.ofText_renderAll_of_ofText h
  refine ⟨hrendered, ?_⟩
  intro registry
  exact ⟨ofBlocks registry blocks, ofText_eq_of_blocks h registry,
    ofText_eq_of_blocks hrendered registry⟩

/-- A comment, a brace behind a heading, an equals sign in a value and a carriage
    return are put in order. -/
theorem ofText_rendered_untidy :
    Block.ofText "//\nPARAMETER\x7b // note\n\ttag =a = b\r\n\x7d" =
        .ok [⟨"PARAMETER", [("tag", "a = b")]⟩] ∧
      Block.ofText "PARAMETER\n\x7b\n    tag = a = b\n\x7d\n" =
        .ok [⟨"PARAMETER", [("tag", "a = b")]⟩] ∧
      ∀ registry, ∃ contents,
        ofText registry "//\nPARAMETER\x7b // note\n\ttag =a = b\r\n\x7d" =
            .ok contents ∧
          ofText registry "PARAMETER\n\x7b\n    tag = a = b\n\x7d\n" = .ok contents := by
  have hread : Block.ofText "//\nPARAMETER\x7b // note\n\ttag =a = b\r\n\x7d" =
      .ok [⟨"PARAMETER", [("tag", "a = b")]⟩] := rfl
  have hrender : Block.renderAll [⟨"PARAMETER", [("tag", "a = b")]⟩] =
      "PARAMETER\n\x7b\n    tag = a = b\n\x7d\n" := by decide
  have hrendered := ofText_rendered hread
  rw [hrender] at hrendered
  exact ⟨hread, hrendered⟩

end Contents

end ContractRules
