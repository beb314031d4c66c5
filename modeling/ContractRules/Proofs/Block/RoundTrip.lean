import ContractRules.Block.Printer
import ContractRules.Proofs.Block.Recognition

/-! # Round trip — which blocks survive being written and read

    Blocks are written without escapes, so not every block reads back.  The ones
    that do are the `Printable` ones, and there are no others:

    * what is read is printable, whatever the text was, because a significant
      line is clean and key and value are trimmed pieces of it;
    * the written lines of a printable block are a block of the grammar, and the
      reader accepts the grammar. -/

namespace ContractRules.Block

open Text

/-- A key that a line can hold in front of its first equals sign. -/
structure PrintableKey (key : List Char) : Prop extends Clean key where
  ne_nil : key ≠ []
  no_equals : '=' ∉ key

/-- A block whose written form says all of it: its name is a name, and its keys
    and values hold no line feed, no comment and no blanks at their ends. -/
structure Printable (block : Block) : Prop where
  name : IsName block.name.toList
  keys : ∀ entry ∈ block.entries, PrintableKey entry.1.toList
  values : ∀ entry ∈ block.entries, Clean entry.2.toList

instance : DecidablePred PrintableKey := fun key =>
  decidable_of_iff (Clean key ∧ key ≠ [] ∧ '=' ∉ key)
    ⟨fun h => ⟨h.1, h.2.1, h.2.2⟩, fun h => ⟨h.toClean, h.ne_nil, h.no_equals⟩⟩

instance : DecidablePred Printable := fun block =>
  decidable_of_iff (IsName block.name.toList ∧
      (∀ entry ∈ block.entries, PrintableKey entry.1.toList) ∧
      ∀ entry ∈ block.entries, Clean entry.2.toList)
    ⟨fun h => ⟨h.1, h.2.1, h.2.2⟩, fun h => ⟨h.name, h.keys, h.values⟩⟩

/-! ## What is read is printable -/

/-- The entry of a clean line is printable. -/
theorem IsEntry.printable {line : List Char} {entry : String × String}
    (h : IsEntry line entry) (hclean : Clean line) :
    PrintableKey entry.1.toList ∧ Clean entry.2.toList := by
  obtain ⟨hne, hfirst⟩ := h
  rename_i key value
  rw [String.toList_ofList, String.toList_ofList]
  constructor
  · refine ⟨hclean.trim_of_infix (List.prefix_append key _).isInfix, ?_, ?_⟩
    · -- the line is trimmed, so its key starts with no blank and stays
      cases key with
      | nil => exact absurd rfl hne
      | cons c rest =>
          have hc : isBlank c = false :=
            (trim_eq_self_iff.mp hclean.trimmed).1 c rfl
          rw [trim_cons_of_not_blank hc]
          exact List.cons_ne_nil c _
    · intro hmem
      exact hfirst (mem_of_mem_trim hmem)
  · refine hclean.trim_of_infix (List.IsSuffix.isInfix ⟨key ++ ['='], ?_⟩)
    rw [List.append_assoc]
    rfl

/-- What stands in a clean body can be printed again. -/
theorem printable_of_body {body : List (List Char)}
    {entries : List (String × String)} (h : List.Forall₂ IsEntry body entries)
    (hclean : ∀ line ∈ body, Clean line) :
    ∀ entry ∈ entries, PrintableKey entry.1.toList ∧ Clean entry.2.toList := by
  induction h with
  | nil => exact fun _ hmem => absurd hmem List.not_mem_nil
  | cons hentry _ ih =>
      intro entry hmem
      rcases List.mem_cons.mp hmem with rfl | hmem
      · exact hentry.printable (hclean _ List.mem_cons_self)
      · exact ih (fun line h => hclean line (List.mem_cons_of_mem _ h)) entry hmem

/-- The block of clean lines is printable. -/
theorem IsBlock.printable {lines : List (List Char)} {block : Block}
    (h : IsBlock lines block) (hclean : ∀ line ∈ lines, Clean line) :
    block.Printable := by
  obtain ⟨hheader, hbody⟩ := h
  have hentry := printable_of_body hbody fun line h => hclean line (by simp [h])
  refine ⟨?_, fun entry h => (hentry entry h).1, fun entry h => (hentry entry h).2⟩
  rw [String.toList_ofList]
  cases hheader <;> assumption

/-- The blocks of a clean document can be printed again. -/
theorem IsDocument.printable {lines : List (List Char)} {blocks : List Block}
    (h : IsDocument lines blocks) (hclean : ∀ line ∈ lines, Clean line) :
    ∀ block ∈ blocks, block.Printable := by
  induction h with
  | nil => exact fun _ hmem => absurd hmem List.not_mem_nil
  | cons hblock _ ih =>
      intro block hmem
      rcases List.mem_cons.mp hmem with rfl | hmem
      · exact hblock.printable fun line h => hclean line (by simp [h])
      · exact ih (fun line h => hclean line (by simp [h])) block hmem

/-- Every block that is read from a text is printable. -/
theorem printable_of_ofText {text : String} {blocks : List Block}
    (h : ofText text = .ok blocks) : ∀ block ∈ blocks, block.Printable :=
  (ofLines_eq_ok_iff.mp h).printable fun _ hmem => clean_of_mem_significantLines hmem

/-! ## The written lines -/

/-- The line of an entry, without its line feed. -/
def writtenEntry (entry : String × String) : List Char :=
  [' ', ' ', ' ', ' '] ++ entry.1.toList ++ [' ', '=', ' '] ++ entry.2.toList

/-- The lines of a block, without their line feeds. -/
def writtenLines (block : Block) : List (List Char) :=
  block.name.toList :: ['\x7b'] :: (block.entries.map writtenEntry ++ [['\x7d']])

/-- A block is printed as its lines, each ended by a line feed. -/
theorem toList_render (block : Block) :
    block.render.toList = block.writtenLines.flatMap (· ++ ['\n']) := by
  have hentries : (String.join (block.entries.map entryLine)).toList =
      (block.entries.map writtenEntry).flatMap (· ++ ['\n']) := by
    rw [String.toList_join, List.flatMap_map, List.flatMap_map]
    congr 1
    funext entry
    simp [entryLine, writtenEntry]
  simp [render, writtenLines, hentries]

theorem toList_renderAll (blocks : List Block) :
    (renderAll blocks).toList =
      (blocks.flatMap writtenLines).flatMap (· ++ ['\n']) := by
  rw [renderAll, String.toList_join, List.flatMap_map, List.flatMap_assoc]
  congr 1
  funext block
  exact toList_render block

/-! ## The written lines of a printable block are a block -/

theorem IsName.clean {name : List Char} (h : IsName name) : Clean name where
  no_line_feed hmem := absurd (h.isNameRest hmem) (by decide)
  no_comment hmark :=
    absurd (h.isNameRest (hmark.subset List.mem_cons_self)) (by decide)
  trimmed := h.trim_eq_self

/-- No written line of a printable block holds a line feed. -/
theorem Printable.not_mem_of_mem {block : Block} (h : block.Printable)
    {line : List Char} (hline : line ∈ block.writtenLines) : '\n' ∉ line := by
  rw [writtenLines] at hline
  rcases List.mem_cons.mp hline with rfl | hline
  · exact h.name.clean.no_line_feed
  rcases List.mem_cons.mp hline with rfl | hline
  · decide
  rcases List.mem_append.mp hline with hline | hline
  · obtain ⟨entry, hentry, rfl⟩ := List.mem_map.mp hline
    have hkey := (h.keys entry hentry).no_line_feed
    have hvalue := (h.values entry hentry).no_line_feed
    simp [writtenEntry, hkey, hvalue]
  · rw [List.mem_singleton.mp hline]
    decide

/-- The indent goes and the blank behind an empty value goes; key and value
    stay. -/
theorem significant_entryLine {key value : List Char} (hkey : PrintableKey key)
    (hvalue : Clean value) :
    significant ([' ', ' ', ' ', ' '] ++ key ++ [' ', '=', ' '] ++ value) =
      (key ++ [' ']) ++ '=' :: trimEnd (' ' :: value) := by
  have hindent : ∀ c ∈ [' ', ' ', ' ', ' '], isBlank c = true :=
    List.all_eq_true.mp rfl
  -- nothing is cut: key and value hold no comment, and blanks keep them apart
  have hcut : cutComment
      ([' ', ' ', ' '] ++ ' ' :: (key ++ ' ' :: (['='] ++ ' ' :: value))) =
        [' ', ' ', ' '] ++ ' ' :: (key ++ ' ' :: (['='] ++ ' ' :: value)) := by
    rw [cutComment_append_cons (by decide) (by decide),
      cutComment_append_cons hkey.no_comment (by decide),
      cutComment_append_cons (by decide) (by decide),
      cutComment_eq_self hvalue.no_comment]
  have hline : [' ', ' ', ' ', ' '] ++ key ++ [' ', '=', ' '] ++ value =
      [' ', ' ', ' '] ++ ' ' :: (key ++ ' ' :: (['='] ++ ' ' :: value)) := by
    simp
  have hblanks : [' ', ' ', ' '] ++ ' ' :: (key ++ ' ' :: (['='] ++ ' ' :: value)) =
      [' ', ' ', ' ', ' '] ++ ((key ++ [' ']) ++ '=' :: ' ' :: value) := by
    simp
  rw [significant, hline, hcut, hblanks, trim_append_of_blank_left hindent]
  cases key with
  | nil => exact absurd rfl hkey.ne_nil
  | cons c rest =>
      have hc : isBlank c = false := (trim_eq_self_iff.mp hkey.trimmed).1 c rfl
      rw [List.cons_append, List.cons_append, trim_cons_of_not_blank hc,
        trimEnd_append_cons (by decide)]
      rfl

/-- The line of a printable entry says the entry. -/
theorem isEntry_writtenEntry {entry : String × String}
    (hkey : PrintableKey entry.1.toList) (hvalue : Clean entry.2.toList) :
    IsEntry (significant (writtenEntry entry)) entry := by
  have hspace : ∀ c ∈ [' '], isBlank c = true := List.all_eq_true.mp rfl
  have hne : entry.1.toList ++ [' '] ≠ [] := by simp
  have hfirst : '=' ∉ entry.1.toList ++ [' '] := by simp [hkey.no_equals]
  have htrimKey : trim (entry.1.toList ++ [' ']) = entry.1.toList := by
    rw [trim_append_of_blank_right hspace, hkey.trimmed]
  have htrimValue : trim (trimEnd (' ' :: entry.2.toList)) = entry.2.toList := by
    rw [trim_trimEnd]
    exact (trim_append_of_blank_left hspace _).trans hvalue.trimmed
  have hentry : IsEntry
      ((entry.1.toList ++ [' ']) ++ '=' :: trimEnd (' ' :: entry.2.toList))
      (String.ofList (trim (entry.1.toList ++ [' '])),
        String.ofList (trim (trimEnd (' ' :: entry.2.toList)))) := .mk hne hfirst
  rw [htrimKey, htrimValue, String.ofList_toList, String.ofList_toList] at hentry
  rw [writtenEntry, significant_entryLine hkey hvalue]
  exact hentry

/-- The lines of printable entries are a body with these entries. -/
theorem body_writtenEntries {entries : List (String × String)}
    (hkeys : ∀ entry ∈ entries, PrintableKey entry.1.toList)
    (hvalues : ∀ entry ∈ entries, Clean entry.2.toList) :
    List.Forall₂ IsEntry (significantLines (entries.map writtenEntry)) entries := by
  induction entries with
  | nil => exact .nil
  | cons entry entries ih =>
      have hentry := isEntry_writtenEntry (hkeys entry List.mem_cons_self)
        (hvalues entry List.mem_cons_self)
      have hne : significant (writtenEntry entry) ≠ [] := by
        intro h
        rw [h] at hentry
        exact absurd hentry not_isEntry_nil
      rw [List.map_cons, significantLines_cons_of_ne hne]
      exact .cons hentry (ih
        (fun other h => hkeys other (List.mem_cons_of_mem _ h))
        fun other h => hvalues other (List.mem_cons_of_mem _ h))

/-- The written lines of a printable block are a block of the grammar. -/
theorem Printable.isBlock {block : Block} (h : block.Printable) :
    IsBlock (significantLines block.writtenLines) block := by
  have hname := significant_eq_self h.name.clean
  have hblock := IsBlock.mk (.apart h.name) (body_writtenEntries h.keys h.values)
  rw [String.ofList_toList] at hblock
  have hlines : significantLines block.writtenLines =
      [block.name.toList, ['\x7b']] ++
        significantLines (block.entries.map writtenEntry) ++ [['\x7d']] := by
    rw [writtenLines,
      significantLines_cons_of_ne (by rw [hname]; exact h.name.ne_nil), hname,
      significantLines_cons_of_ne (by decide), significantLines_append]
    rfl
  rw [hlines]
  exact hblock

/-- The written lines of printable blocks are a document of the grammar. -/
theorem isDocument_writtenLines {blocks : List Block}
    (h : ∀ block ∈ blocks, block.Printable) :
    IsDocument (significantLines (blocks.flatMap writtenLines)) blocks := by
  induction blocks with
  | nil => exact .nil
  | cons block blocks ih =>
      rw [List.flatMap_cons, significantLines_append]
      exact .cons (h block List.mem_cons_self).isBlock
        (ih fun other hmem => h other (List.mem_cons_of_mem _ hmem))

/-- Printable blocks are read back from their written form. -/
theorem ofText_renderAll {blocks : List Block}
    (h : ∀ block ∈ blocks, block.Printable) :
    ofText (renderAll blocks) = .ok blocks := by
  have hrows : ∀ row ∈ blocks.flatMap writtenLines, '\n' ∉ row := by
    intro row hrow
    obtain ⟨block, hblock, hmem⟩ := List.mem_flatMap.mp hrow
    exact (h block hblock).not_mem_of_mem hmem
  have hlines : Text.lines (renderAll blocks).toList =
      blocks.flatMap writtenLines := by
    rw [toList_renderAll]
    have := lines_flatMap_append hrows []
    rwa [List.append_nil, lines_nil, List.append_nil] at this
  rw [ofText, hlines]
  exact ofLines_eq_ok_iff.mpr (isDocument_writtenLines h)

/-- A printable block is read back from its own written form. -/
theorem Printable.ofText_render {block : Block} (h : block.Printable) :
    ofText block.render = .ok [block] := by
  have hall : renderAll [block] = block.render := by
    rw [renderAll, List.map_singleton]
    exact String.empty_append
  rw [← hall]
  refine ofText_renderAll ?_
  intro other hmem
  rw [List.mem_singleton.mp hmem]
  exact h

/-- **Exactly the printable blocks survive**: a list of blocks is read back from
    its written form if and only if every block in it is printable. -/
theorem ofText_renderAll_eq_ok_iff (blocks : List Block) :
    ofText (renderAll blocks) = .ok blocks ↔
      ∀ block ∈ blocks, block.Printable := by
  constructor
  · intro h
    exact printable_of_ofText h
  · intro h
    exact ofText_renderAll h

/-- An equals sign or a brace in a value is no obstacle, and a comment is. -/
example :
    Printable ⟨"A", [("k", "a = \x7b b"), ("\x7d", "")]⟩ ∧
      ¬ Printable ⟨"A", [("k", "http://b")]⟩ := by decide +kernel

end ContractRules.Block
