import ContractRules.Proofs.Text.Numeral
import ContractRules.Proofs.Text.Significant

/-! # Plain text — text without control sequences

    A control sequence begins with the escape character, so a text without that
    character holds none.  Such a text is called plain.  What is put together from
    plain texts is plain, and so is what is cut out of one. -/

namespace ContractRules.Text

/-- The character that control sequences begin with. -/
def escape : Char := '\x1b'

/-- A text that holds no control sequence, nor the beginning of one. -/
def IsPlain (text : String) : Prop := escape ∉ text.toList

instance : DecidablePred IsPlain := fun text =>
  inferInstanceAs (Decidable (escape ∉ text.toList))

@[simp] theorem isPlain_append {first second : String} :
    IsPlain (first ++ second) ↔ IsPlain first ∧ IsPlain second := by
  rw [IsPlain, String.toList_append, List.mem_append, not_or]
  rfl

/-- Plain signs around a plain text leave it plain. -/
theorem IsPlain.between {front text back : String} (h : IsPlain text)
    (hfront : IsPlain front) (hback : IsPlain back) : IsPlain (front ++ text ++ back) :=
  isPlain_append.mpr ⟨isPlain_append.mpr ⟨hfront, h⟩, hback⟩

/-- A text is plain as the list of its characters is. -/
theorem isPlain_ofList {chars : List Char} (h : escape ∉ chars) :
    IsPlain (String.ofList chars) := by
  rwa [IsPlain, String.toList_ofList]

/-- What is made of characters of a plain text is plain. -/
theorem IsPlain.ofList {text : String} (h : IsPlain text) {chars : List Char}
    (hchars : chars ⊆ text.toList) : IsPlain (String.ofList chars) :=
  isPlain_ofList fun hmem => h (hchars hmem)

/-- Plain texts with a plain separator between them make a plain text. -/
theorem isPlain_intercalate {separator : String} (hseparator : IsPlain separator)
    {texts : List String} (h : ∀ text ∈ texts, IsPlain text) :
    IsPlain (String.intercalate separator texts) := by
  induction texts with
  | nil =>
      rw [String.intercalate_nil]
      decide
  | cons first rest ih =>
      have hfirst := h first List.mem_cons_self
      have hrest := ih fun text hmem => h text (List.mem_cons_of_mem _ hmem)
      cases rest with
      | nil => rwa [String.intercalate_singleton]
      | cons second rest =>
          rw [String.intercalate_cons_cons, isPlain_append, isPlain_append]
          exact ⟨⟨hfirst, hseparator⟩, hrest⟩

/-- A number is written in digits. -/
@[simp] theorem isPlain_toString (n : Nat) : IsPlain (toString n) :=
  not_mem_toString rfl n

/-- Splitting a text into lines makes up no character. -/
theorem mem_of_mem_lines {text line : List Char} (h : line ∈ lines text) {c : Char}
    (hmem : c ∈ line) : c ∈ text := by
  induction text generalizing line with
  | nil => exact absurd h List.not_mem_nil
  | cons first text ih =>
      rw [lines_cons] at h
      -- the first character begins a line or goes in front of one
      cases hlines : lines text with
      | nil =>
          rw [hlines, consChar] at h
          split at h
          · rw [List.mem_singleton.mp h] at hmem
            cases hmem
          · rw [List.mem_singleton.mp h, List.mem_singleton] at hmem
            rw [hmem]
            exact List.mem_cons_self
      | cons second rest =>
          rw [hlines] at ih
          rw [hlines, consChar] at h
          split at h
          · rcases List.mem_cons.mp h with rfl | h
            · cases hmem
            · exact List.mem_cons_of_mem _ (ih h hmem)
          · rcases List.mem_cons.mp h with rfl | h
            · rcases List.mem_cons.mp hmem with rfl | hmem
              · exact List.mem_cons_self
              · exact List.mem_cons_of_mem _ (ih List.mem_cons_self hmem)
            · exact List.mem_cons_of_mem _ (ih (List.mem_cons_of_mem _ h) hmem)

/-- What lines say is made of the characters of the text. -/
theorem subset_of_mem_significantLines {text line : List Char}
    (h : line ∈ significantLines (lines text)) : line ⊆ text := by
  obtain ⟨hmem, -⟩ := List.mem_filter.mp h
  obtain ⟨raw, hraw, rfl⟩ := List.mem_map.mp hmem
  intro c hc
  exact mem_of_mem_lines hraw ((cutComment_isPrefix raw).subset (mem_of_mem_trim hc))

end ContractRules.Text
