import ContractRules.Text.Blank
import Mathlib.Data.List.DropRight

/-! # Trimming — what is left, and what does not matter

    Trimming drops blanks at both ends and nothing else.  Three facts carry
    everything that is proved about trimmed text:

    * what is left is a piece of the text (`trim_isInfix`);
    * a text is left alone exactly when neither of its end characters is blank
      (`trim_eq_self_iff`), and what is left is left alone (`trim_trim`);
    * blanks in front of a text or behind it make no difference
      (`trim_append_of_blank_left`, `trim_append_of_blank_right`). -/

namespace ContractRules.Text

/-- The visible characters of ASCII are not blank. -/
theorem isBlank_of_visible {c : Char} (hlow : 33 ≤ c.toNat)
    (hhigh : c.toNat ≤ 126) : isBlank c = false := by
  simp only [isBlank, blankRanges, List.any_cons, List.any_nil, Bool.or_false,
    Bool.or_eq_false_iff, Bool.and_eq_false_iff, decide_eq_false_iff_not]
  omega

/-! ## Either end alone -/

theorem trimStart_append_of_blank {blanks : List Char}
    (h : ∀ c ∈ blanks, isBlank c = true) (text : List Char) :
    trimStart (blanks ++ text) = trimStart text :=
  List.dropWhile_append_of_pos h

theorem trimStart_cons_of_not_blank {c : Char} (h : isBlank c = false)
    (rest : List Char) : trimStart (c :: rest) = c :: rest :=
  List.dropWhile_cons_of_neg (ne_true_of_eq_false h)

theorem trimEnd_append_of_blank {blanks : List Char}
    (h : ∀ c ∈ blanks, isBlank c = true) (text : List Char) :
    trimEnd (text ++ blanks) = trimEnd text := by
  rw [trimEnd, List.reverse_append, List.dropWhile_append_of_pos, trimEnd]
  intro c hc
  exact h c (List.mem_reverse.mp hc)

/-- What stands in front of a character that is not blank survives `trimEnd`. -/
theorem trimEnd_append_cons {c : Char} (h : isBlank c = false)
    (front rest : List Char) :
    trimEnd (front ++ c :: rest) = front ++ c :: trimEnd rest := by
  rw [trimEnd, List.reverse_append, List.reverse_cons, List.append_assoc,
    List.dropWhile_append]
  cases hr : rest.reverse.dropWhile isBlank with
  | nil => simp [trimEnd, hr, h]
  | cons d left => simp [trimEnd, hr]

/-- A text is its start without blanks at the end, and then those blanks. -/
theorem exists_trimEnd_append (text : List Char) :
    ∃ blanks, (∀ c ∈ blanks, isBlank c = true) ∧
      text = trimEnd text ++ blanks := by
  -- `trimEnd` is the library's `rdropWhile`, and the blanks are its `rtakeWhile`
  refine ⟨text.rtakeWhile isBlank, fun _ hc => List.mem_rtakeWhile_imp hc, ?_⟩
  exact List.rdropWhile_append_rtakeWhile.symm

/-- What is left after trimming is a piece of the text. -/
theorem trim_isInfix (text : List Char) : trim text <:+: text :=
  (List.rdropWhile_prefix isBlank (trimStart text)).isInfix.trans
    (List.dropWhile_suffix isBlank).isInfix

/-- Trimming brings in no character. -/
theorem mem_of_mem_trim {c : Char} {text : List Char} (h : c ∈ trim text) :
    c ∈ text :=
  (trim_isInfix text).subset h

/-- Nothing is left of a blank text, and only of a blank text. -/
theorem trim_eq_nil_iff {text : List Char} :
    trim text = [] ↔ ∀ c ∈ text, isBlank c = true := by
  constructor
  · intro h c hc
    obtain ⟨blanks, hblanks, hstart⟩ := exists_trimEnd_append (trimStart text)
    rw [← trim, h, List.nil_append] at hstart
    rw [← List.takeWhile_append_dropWhile (p := isBlank) (l := text),
      List.mem_append] at hc
    rcases hc with hc | hc
    · exact List.mem_takeWhile_imp hc
    · exact hblanks c (hstart ▸ hc)
  · intro h
    rw [trim, trimStart, List.dropWhile_eq_nil_iff.mpr h]
    rfl

/-! ## Trimmed texts -/

theorem head?_trim_not_blank {c : Char} {text : List Char}
    (h : (trim text).head? = some c) : isBlank c = false := by
  have hs : (trimStart text).head? = some c := by
    obtain ⟨left, hleft⟩ : trim text <+: trimStart text :=
      List.rdropWhile_prefix isBlank (trimStart text)
    rw [← hleft, List.head?_append, h]
    rfl
  have := List.head?_dropWhile_not isBlank text
  rw [show text.dropWhile isBlank = trimStart text from rfl, hs] at this
  simpa using this

theorem getLast?_trim_not_blank {c : Char} {text : List Char}
    (h : (trim text).getLast? = some c) : isBlank c = false := by
  have hne : trim text ≠ [] := by
    intro h0
    rw [h0] at h
    cases h
  have hc : (trim text).getLast hne = c :=
    Option.some.inj ((List.getLast?_eq_some_getLast hne).symm.trans h)
  have := List.rdropWhile_last_not isBlank (trimStart text) hne
  rw [← hc]
  exact Bool.not_eq_true _ ▸ this

/-- A text is left alone exactly when neither of its end characters is
    blank. -/
theorem trim_eq_self_iff {text : List Char} :
    trim text = text ↔
      (∀ c, text.head? = some c → isBlank c = false) ∧
        (∀ c, text.getLast? = some c → isBlank c = false) := by
  constructor
  · intro h
    constructor
    · intro c hc
      exact head?_trim_not_blank (by rw [h]; exact hc)
    · intro c hc
      exact getLast?_trim_not_blank (by rw [h]; exact hc)
  · rintro ⟨hhead, hlast⟩
    -- neither end gives anything up
    have hstart : trimStart text = text := by
      cases text with
      | nil => rfl
      | cons c rest => exact trimStart_cons_of_not_blank (hhead c rfl) rest
    have hend : text.rdropWhile isBlank = text := by
      refine List.rdropWhile_eq_self_iff.mpr ?_
      intro hne
      rw [hlast _ (List.getLast?_eq_some_getLast hne)]
      exact Bool.false_ne_true
    show trimEnd (trimStart text) = text
    rw [hstart]
    exact hend

@[simp] theorem trim_trim (text : List Char) : trim (trim text) = trim text :=
  trim_eq_self_iff.mpr
    ⟨fun _ h => head?_trim_not_blank h, fun _ h => getLast?_trim_not_blank h⟩

theorem trim_cons_of_not_blank {c : Char} (h : isBlank c = false)
    (rest : List Char) : trim (c :: rest) = c :: trimEnd rest := by
  rw [trim, trimStart_cons_of_not_blank h]
  exact trimEnd_append_cons h [] rest

/-- A text without blanks is trimmed already. -/
theorem trim_eq_self_of_not_blank {text : List Char}
    (h : ∀ c ∈ text, isBlank c = false) : trim text = text :=
  trim_eq_self_iff.mpr
    ⟨fun c hc => h c (List.mem_of_head? hc),
      fun c hc => h c (List.mem_of_getLast? hc)⟩

/-! ## Blanks around a text -/

/-- Blanks in front are trimmed away. -/
theorem trim_append_of_blank_left {blanks : List Char}
    (h : ∀ c ∈ blanks, isBlank c = true) (text : List Char) :
    trim (blanks ++ text) = trim text := by
  rw [trim, trimStart_append_of_blank h, trim]

theorem trim_append_of_blank_right {blanks : List Char}
    (h : ∀ c ∈ blanks, isBlank c = true) (text : List Char) :
    trim (text ++ blanks) = trim text := by
  rw [trim, trim]
  cases ht : trimStart text with
  | nil =>
      have hall : ∀ c ∈ text ++ blanks, isBlank c = true := by
        intro c hc
        rcases List.mem_append.mp hc with hc | hc
        · exact List.dropWhile_eq_nil_iff.mp ht c hc
        · exact h c hc
      rw [show trimStart (text ++ blanks) = []
        from List.dropWhile_eq_nil_iff.mpr hall]
  | cons c rest =>
      have hs : trimStart (text ++ blanks) = c :: rest ++ blanks := by
        rw [trimStart] at ht
        rw [trimStart, List.dropWhile_append, ht]
        rfl
      rw [hs, trimEnd_append_of_blank h]

/-- Dropping the blanks at the end first makes no difference. -/
theorem trim_trimEnd (text : List Char) : trim (trimEnd text) = trim text := by
  obtain ⟨blanks, hblank, heq⟩ := exists_trimEnd_append text
  rw [heq, trim_append_of_blank_right hblank, ← heq]

end ContractRules.Text
