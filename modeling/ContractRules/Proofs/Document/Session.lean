import ContractRules.Proofs.Block.RoundTrip
import ContractRules.Proofs.Document.Contents
import ContractRules.Proofs.Requirement.Session

/-! # Saved text — from a document to a session and back

    Saved state is kept as text, and text has no escapes.  It can hold a
    requirement that came from a text, because every string of the requirement
    was read off a clean line then: the base and the target are values of a
    printable block, or they fall back on such values.  So a saved requirement is
    a printable block again, and printable blocks survive
    (`Block.ofText_renderAll`). -/

namespace ContractRules

open Text

/-- A value that is found in a printable block is clean. -/
theorem Block.Printable.clean_of_first? {block : Block} (h : block.Printable)
    {key value : String} (hfirst : block.first? key = some value) :
    Clean value.toList := by
  obtain ⟨entry, hfind, rfl⟩ := Option.map_eq_some_iff.mp hfirst
  exact h.values entry (List.mem_of_find?_eq_some hfind)

namespace Requirement

/-- A requirement can be written as text if its saved values are clean. -/
def Writable (requirement : Requirement) : Prop :=
  ∀ entry ∈ requirement.saved, Clean entry.2.toList

/-- Only keys of saved state are saved. -/
theorem key_mem_savedKeys {requirement : Requirement} {entry : String × String}
    (h : entry ∈ requirement.saved) : entry.1 ∈ savedKeys := by
  have hkeys : requirement.saved.all (fun entry => entry.1 ∈ savedKeys) = true := by
    obtain ⟨⟨_, _, _, _, title?⟩, _, target, _, _⟩ := requirement
    cases title? <;> cases target <;> rfl
  exact of_decide_eq_true (List.all_eq_true.mp hkeys entry h)

/-- A base that a printable block gives has clean strings only. -/
theorem Base.GivenBy.clean_saved {base : Base} {block : Block}
    (h : base.GivenBy block) (hprintable : block.Printable) :
    ∀ entry ∈ base.saved, Clean entry.2.toList := by
  have hkind : Clean base.kind.toList := hprintable.clean_of_first? h.kind
  have hname : Clean base.name.toList := by
    rw [h.name]
    cases hfirst : block.first? "name" with
    | none => exact hkind
    | some name => exact hprintable.clean_of_first? hfirst
  intro entry hmem
  rcases List.mem_append.mp hmem with hmem | hmem
  · rcases List.mem_cons.mp hmem with rfl | hmem
    · exact hname
    rcases List.mem_cons.mp hmem with rfl | hmem
    · exact hkind
    · rw [List.mem_singleton.mp hmem]
      exact clean_flagText _
  · rw [h.title] at hmem
    obtain ⟨title, htitle, rfl⟩ := List.mem_map.mp hmem
    exact hprintable.clean_of_first? (Option.mem_toList.mp htitle)

/-- A target that a printable block names is kept under a clean string. -/
theorem clean_target_saved {registry : Registry} {block : Block} {target : Target}
    (h : Target.named? registry block (block.first? "tag") = some target)
    (hprintable : block.Printable) : Clean target.saved.2.toList := by
  cases htag : block.first? "tag" with
  | some name =>
      rw [htag] at h
      rw [← Option.some.inj h]
      exact hprintable.clean_of_first? htag
  | none =>
      rw [htag, Target.named?] at h
      obtain ⟨ref, href, rfl⟩ := Option.map_eq_some_iff.mp h
      obtain ⟨identifier, hfirst, hresolve⟩ := Option.bind_eq_some_iff.mp href
      show Clean ref.identifier.toList
      rw [Registry.identifier_of_resolve? hresolve]
      exact hprintable.clean_of_first? hfirst

/-- What a printable block describes can be written as text. -/
theorem DescribedBy.writable {requirement : Requirement} {registry : Registry}
    {block : Block} (h : requirement.DescribedBy registry block)
    (hprintable : block.Printable) : requirement.Writable := by
  intro entry hmem
  rcases List.mem_append.mp hmem with hmem | hmem
  · exact h.base.clean_saved hprintable entry hmem
  · rcases List.mem_cons.mp hmem with rfl | hmem
    · exact clean_countText _
    rcases List.mem_cons.mp hmem with rfl | hmem
    · exact clean_countText _
    rcases List.mem_cons.mp hmem with rfl | hmem
    · exact clean_flagText _
    · rw [List.mem_singleton.mp hmem]
      exact clean_target_saved h.target hprintable

/-- All keys that are saved can be printed. -/
theorem printableKey_of_mem_savedKeys :
    ∀ key ∈ savedKeys, Block.PrintableKey key.toList := by decide +kernel

/-- Saving what can be written keeps a block printable. -/
theorem Writable.printable_save {requirement : Requirement}
    (h : requirement.Writable) {block : Block} (hprintable : block.Printable) :
    (requirement.save block).Printable where
  name := hprintable.name
  keys := by
    intro entry hmem
    rcases List.mem_append.mp hmem with hmem | hmem
    · exact hprintable.keys entry hmem
    · exact printableKey_of_mem_savedKeys _ (key_mem_savedKeys hmem)
  values := by
    intro entry hmem
    rcases List.mem_append.mp hmem with hmem | hmem
    · exact hprintable.values entry hmem
    · exact h entry hmem

end Requirement

/-- **A document survives its sessions**: every requirement of a text is saved as
    a text that reads back as the saved block, and that block is restored as the
    requirement it was. -/
theorem Contents.restore_ofText_save (registry : Registry) (text : String)
    (contents : Logged Contents) (hload : ofText registry text = .ok contents)
    (requirement : Requirement)
    (hmem : Definition.requirement requirement ∈ contents.value.definitions) :
    ∃ node,
      Block.ofText (requirement.save (Block.empty "REQUIREMENT")).render =
          .ok [node] ∧
        node = requirement.save (Block.empty "REQUIREMENT") ∧
        (Requirement.restore registry node).run.value = .ok requirement := by
  obtain ⟨blocks, hblocks, block, hblock, hrequirement⟩ :=
    exists_block_of_mem hload hmem
  have hdefined := Requirement.load_eq_ok_iff.mp hrequirement
  -- what reached the loader was read off clean lines, so it can be written
  have hwritable : requirement.Writable :=
    hdefined.writable (Block.printable_of_ofText hblocks block hblock)
  have hempty : (Block.empty "REQUIREMENT").Printable :=
    ⟨by decide, nofun, nofun⟩
  exact ⟨_, (hwritable.printable_save hempty).ofText_render, rfl,
    hdefined.standsIn.restore_eq_ok fun _ _ => rfl⟩

/-- A small document, with a comment that does not count. -/
def acceptedText : String :=
  "REQUIREMENT\x7b//\ntype=AcceptContract\ntag = a = \x7b//\n\x7d"

/-- What the small document requires. -/
def accepted : Requirement :=
  ⟨.ofKind "AcceptContract", .accept, .tag "a = \x7b", 1, Requirement.unbounded⟩

/-- A text whose requirement is saved, printed, read and restored. -/
theorem Contents.restore_ofText_save_accepted :
    ofText .empty acceptedText =
        .ok ⟨⟨[.requirement accepted], [], []⟩,
          [.requirementLoaded "AcceptContract" .accept, .documentLoaded 1 0 0]⟩ ∧
      Definition.requirement accepted ∈ [Definition.requirement accepted] ∧
      ∃ node,
        Block.ofText (accepted.save (Block.empty "REQUIREMENT")).render =
            .ok [node] ∧
          node = accepted.save (Block.empty "REQUIREMENT") ∧
          (Requirement.restore .empty node).run.value = .ok accepted := by
  have hload : ofText .empty acceptedText =
      .ok ⟨⟨[.requirement accepted], [], []⟩,
        [.requirementLoaded "AcceptContract" .accept, .documentLoaded 1 0 0]⟩ := by
    decide +kernel
  have hmem : Definition.requirement accepted ∈ [Definition.requirement accepted] :=
    List.mem_singleton_self _
  exact ⟨hload, hmem, restore_ofText_save .empty acceptedText _ hload accepted hmem⟩

end ContractRules
