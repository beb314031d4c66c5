import ContractRules.Block.Basic
import ContractRules.Block.Format
import ContractRules.Proofs.Text.Split
import ContractRules.Proofs.Text.Trim

/-! # The grammar of documents — what a text of blocks is, without a reader

    A document is a row of blocks, and a block is a header, any number of entry
    lines and a closing brace.  The grammar is a family of relations between the
    significant lines of a text and what they say; nothing in it mentions how a
    reader finds its way through them.

    The second half ties each production to the form that a line has for the
    reader (`LineForm.of`), so that all later arguments are about forms. -/

namespace ContractRules.Block

open Text

/-- A block name: a letter or an underscore, then letters, digits, underscores
    and hyphens, all of them ASCII. -/
def IsName : List Char → Prop
  | [] => False
  | c :: rest =>
      (c.isAlpha = true ∨ c = '_') ∧
        ∀ d ∈ rest, d.isAlphanum = true ∨ d = '_' ∨ d = '-'

instance : DecidablePred IsName
  | [] => isFalse not_false
  | c :: rest =>
      decidable_of_iff ((c.isAlpha = true ∨ c = '_') ∧
          rest.all (fun d => d.isAlphanum = true ∨ d = '_' ∨ d = '-') = true)
        (by simp [IsName])

/-- The lines that begin a block: the name and the opening brace, on two lines
    or on one, with any blanks between them. -/
inductive IsHeader : List (List Char) → List Char → Prop where
  | apart {name : List Char} : IsName name → IsHeader [name, ['\x7b']] name
  | inline {name gap : List Char} :
      IsName name → (∀ c ∈ gap, isBlank c = true) →
      IsHeader [name ++ gap ++ ['\x7b']] name

/-- A line that gives an entry: it holds an equals sign and does not start with
    one, and the trimmed texts around the first one are key and value. -/
inductive IsEntry : List Char → String × String → Prop where
  | mk {key value : List Char} : key ≠ [] → '=' ∉ key →
      IsEntry (key ++ '=' :: value)
        (String.ofList (trim key), String.ofList (trim value))

/-- The lines of a block: its header, a line for each entry, and a closing brace
    alone. -/
inductive IsBlock : List (List Char) → Block → Prop where
  | mk {header body : List (List Char)} {name : List Char}
      {entries : List (String × String)} :
      IsHeader header name → List.Forall₂ IsEntry body entries →
      IsBlock (header ++ body ++ [['\x7d']]) ⟨String.ofList name, entries⟩

/-- The significant lines of a document: those of its blocks, one after the
    other. -/
inductive IsDocument : List (List Char) → List Block → Prop where
  | nil : IsDocument [] []
  | cons {lines rest : List (List Char)} {block : Block} {blocks : List Block} :
      IsBlock lines block → IsDocument rest blocks →
      IsDocument (lines ++ rest) (block :: blocks)

/-! ## Names -/

/-- The characters of a name lie between the hyphen and the small z. -/
theorem toNat_of_isNameRest {c : Char} (h : isNameRest c = true) :
    45 ≤ c.toNat ∧ c.toNat ≤ 122 := by
  have hranges : ((((decide (65 ≤ c.val ∧ c.val ≤ 90)) ||
      (decide (97 ≤ c.val) && decide (c.val ≤ 122))) ||
      (decide (48 ≤ c.val) && decide (c.val ≤ 57))) ||
      c == '_' || c == '-') = true := h
  simp only [Bool.or_eq_true, Bool.and_eq_true, decide_eq_true_eq, beq_iff_eq,
    UInt32.le_iff_toNat_le] at hranges
  rcases hranges with (((h | h) | h) | rfl) | rfl
  · exact ⟨Nat.le_trans (by decide) h.1, Nat.le_trans h.2 (by decide)⟩
  · exact ⟨Nat.le_trans (by decide) h.1, Nat.le_trans h.2 (by decide)⟩
  · exact ⟨Nat.le_trans (by decide) h.1, Nat.le_trans h.2 (by decide)⟩
  · decide
  · decide

theorem isBlank_of_isNameRest {c : Char} (h : isNameRest c = true) :
    isBlank c = false := by
  obtain ⟨hlow, hhigh⟩ := toNat_of_isNameRest h
  exact isBlank_of_visible (by omega) (by omega)

/-- What a name can begin with, it can go on with. -/
theorem isNameRest_of_isNameStart {c : Char} (h : isNameStart c = true) :
    isNameRest c = true := by
  rw [isNameStart, Bool.or_eq_true] at h
  rw [isNameRest, Bool.or_eq_true, Bool.or_eq_true]
  rcases h with h | h
  · exact Or.inl (Or.inl (Bool.or_eq_true_iff.mpr (Or.inl h)))
  · exact Or.inl (Or.inr h)

theorem isName_cons_iff {c : Char} {rest : List Char} :
    IsName (c :: rest) ↔
      isNameStart c = true ∧ ∀ d ∈ rest, isNameRest d = true := by
  simp [IsName, isNameStart, isNameRest, or_assoc]

theorem IsName.ne_nil {name : List Char} (h : IsName name) : name ≠ [] := by
  rintro rfl
  exact h

/-- Every character of a name is one that continues names. -/
theorem IsName.isNameRest {name : List Char} (h : IsName name) {c : Char}
    (hc : c ∈ name) : isNameRest c = true := by
  cases name with
  | nil => exact absurd hc List.not_mem_nil
  | cons d rest =>
      obtain ⟨hd, hrest⟩ := isName_cons_iff.mp h
      rcases List.mem_cons.mp hc with rfl | hmem
      · exact isNameRest_of_isNameStart hd
      · exact hrest c hmem

/-- Trimming leaves a name alone, as it has no blanks. -/
theorem IsName.trim_eq_self {name : List Char} (h : IsName name) :
    trim name = name :=
  trim_eq_self_of_not_blank fun _ hc => isBlank_of_isNameRest (h.isNameRest hc)

/-! ## Lines that read as headings -/

/-- What `heading?` finds behind a name that nothing of the name follows. -/
theorem heading?_append {name stop : List Char} (hname : IsName name)
    (hstop : ∀ c, stop.head? = some c → isNameRest c = false) :
    heading? (name ++ stop) =
      match trimStart stop with
      | [] => some (name, false)
      | ['\x7b'] => some (name, true)
      | _ => none := by
  cases name with
  | nil => exact absurd rfl hname.ne_nil
  | cons c rest =>
      obtain ⟨hc, hrest⟩ := isName_cons_iff.mp hname
      -- the name is taken up to the stop, and the stop is what is left
      have htake : (rest ++ stop).takeWhile isNameRest = rest := by
        rw [List.takeWhile_append_of_pos hrest]
        cases stop with
        | nil => exact List.append_nil rest
        | cons d left =>
            rw [List.takeWhile_cons_of_neg (ne_true_of_eq_false (hstop d rfl))]
            exact List.append_nil rest
      have hdrop : (rest ++ stop).dropWhile isNameRest = stop := by
        rw [List.dropWhile_append_of_pos hrest]
        cases stop with
        | nil => rfl
        | cons d left =>
            exact List.dropWhile_cons_of_neg (ne_true_of_eq_false (hstop d rfl))
      have hheading : heading? (c :: (rest ++ stop)) =
          match trimStart ((rest ++ stop).dropWhile isNameRest) with
          | [] => some (c :: (rest ++ stop).takeWhile isNameRest, false)
          | ['\x7b'] => some (c :: (rest ++ stop).takeWhile isNameRest, true)
          | _ => none := if_pos hc
      rw [htake, hdrop] at hheading
      exact hheading

/-- A line reads as a heading exactly when it is a name, blanks, and the brace
    if the heading is opened. -/
theorem heading?_eq_some_iff {line name : List Char} {opened : Bool} :
    heading? line = some (name, opened) ↔
      IsName name ∧ ∃ gap, (∀ c ∈ gap, isBlank c = true) ∧
        line = name ++ gap ++ if opened then ['\x7b'] else [] := by
  constructor
  · intro h
    cases line with
    | nil => cases h
    | cons c rest =>
        rw [heading?] at h
        by_cases hc : isNameStart c = true
        · rw [if_pos hc] at h
          have hname : IsName (c :: rest.takeWhile isNameRest) :=
            isName_cons_iff.mpr ⟨hc, fun _ hd => List.mem_takeWhile_imp hd⟩
          -- the line falls into the name, the blanks behind it and what is left
          have hsplit : c :: rest = c :: rest.takeWhile isNameRest ++
              (rest.dropWhile isNameRest).takeWhile isBlank ++
                trimStart (rest.dropWhile isNameRest) := by
            rw [List.append_assoc, trimStart, List.takeWhile_append_dropWhile,
              List.cons_append, List.takeWhile_append_dropWhile]
          have hgap : ∀ d ∈ (rest.dropWhile isNameRest).takeWhile isBlank,
              isBlank d = true := fun _ hd => List.mem_takeWhile_imp hd
          dsimp only at h
          split at h
          · rename_i hrest
            obtain ⟨rfl, rfl⟩ := Prod.mk.inj (Option.some.inj h)
            exact ⟨hname, _, hgap, hrest ▸ hsplit⟩
          · rename_i hrest
            obtain ⟨rfl, rfl⟩ := Prod.mk.inj (Option.some.inj h)
            exact ⟨hname, _, hgap, hrest ▸ hsplit⟩
          · cases h
        · rw [if_neg hc] at h
          cases h
  · rintro ⟨hname, gap, hgap, rfl⟩
    rw [List.append_assoc, heading?_append hname, trimStart_append_of_blank hgap]
    · cases opened <;> rfl
    · -- neither a blank nor the brace continues the name
      intro c hc
      cases gap with
      | nil =>
          cases opened with
          | false => cases hc
          | true =>
              obtain rfl : '\x7b' = c := Option.some.inj hc
              decide
      | cons d gap =>
          obtain rfl : d = c := Option.some.inj hc
          have hd := hgap d List.mem_cons_self
          cases hrest : isNameRest d with
          | false => rfl
          | true =>
              rw [isBlank_of_isNameRest hrest] at hd
              cases hd

theorem heading?_eq_none_of_mem {line : List Char} (h : '=' ∈ line) :
    heading? line = none := by
  cases hline : heading? line with
  | none => rfl
  | some found =>
      obtain ⟨name, opened⟩ := found
      obtain ⟨hname, gap, hgap, rfl⟩ := heading?_eq_some_iff.mp hline
      rcases List.mem_append.mp h with h | h
      · rcases List.mem_append.mp h with h | h
        · exact absurd (hname.isNameRest h) (by decide)
        · exact absurd (hgap _ h) (by decide)
      · cases opened <;> exact absurd h (by decide)

/-! ## Lines that read as entries -/

/-- A line without an equals sign is no entry. -/
theorem entry?_eq_none_of_not_mem {line : List Char} (h : '=' ∉ line) :
    entry? line = none := by
  unfold entry?
  rw [dropWhile_of_not_mem h]
  cases line.takeWhile (· != '=') <;> rfl

/-- A line with an equals sign is read by its first one. -/
theorem entry?_append {before : List Char} (h : '=' ∉ before)
    (after : List Char) :
    entry? (before ++ '=' :: after) =
      if before = [] then none else some (trim before, trim after) := by
  unfold entry?
  rw [takeWhile_append_cons h, dropWhile_append_cons h]
  cases before with
  | nil => rfl
  | cons c rest => rfl

/-- A line reads as an entry exactly when an equals sign stands in it behind a
    text that is not empty and holds none. -/
theorem entry?_eq_some_iff {line key value : List Char} :
    entry? line = some (key, value) ↔
      ∃ before after, before ≠ [] ∧ '=' ∉ before ∧
        line = before ++ '=' :: after ∧ key = trim before ∧ value = trim after := by
  constructor
  · intro h
    by_cases hmem : '=' ∈ line
    · obtain ⟨before, after, rfl, hfirst⟩ := List.eq_append_cons_of_mem hmem
      rw [entry?_append hfirst] at h
      split at h
      · cases h
      · rename_i hne
        obtain ⟨rfl, rfl⟩ := Prod.mk.inj (Option.some.inj h)
        exact ⟨before, after, hne, hfirst, rfl, rfl, rfl⟩
    · rw [entry?_eq_none_of_not_mem hmem] at h
      cases h
  · rintro ⟨before, after, hne, hfirst, rfl, rfl, rfl⟩
    rw [entry?_append hfirst, if_neg hne]

/-! ## The form of a line -/

/-- What a line of each form is. -/
theorem form_cases (line : List Char) :
    (LineForm.of line = .opening ∧ line = ['\x7b']) ∨
      (LineForm.of line = .closing ∧ line = ['\x7d']) ∨
      (∃ name opened, LineForm.of line = .heading name opened ∧
        heading? line = some (name, opened)) ∨
      (∃ key value, LineForm.of line = .entry key value ∧
        entry? line = some (key, value)) ∨
      LineForm.of line = .other := by
  rw [LineForm.of]
  by_cases hopen : line = ['\x7b']
  · rw [if_pos hopen]
    exact Or.inl ⟨rfl, hopen⟩
  by_cases hclose : line = ['\x7d']
  · rw [if_neg hopen, if_pos hclose]
    exact Or.inr (Or.inl ⟨rfl, hclose⟩)
  rw [if_neg hopen, if_neg hclose]
  cases hheading : heading? line with
  | some found => exact Or.inr (Or.inr (Or.inl ⟨found.1, found.2, rfl, rfl⟩))
  | none =>
      cases hentry : entry? line with
      | some found =>
          exact Or.inr (Or.inr (Or.inr (Or.inl ⟨found.1, found.2, rfl, rfl⟩)))
      | none => exact Or.inr (Or.inr (Or.inr (Or.inr rfl)))

/-- A line opens a block by one brace and nothing else. -/
theorem form_eq_opening_iff {line : List Char} :
    LineForm.of line = .opening ↔ line = ['\x7b'] := by
  constructor
  · intro h
    rcases form_cases line with ⟨hform, hline⟩ | ⟨hform, hline⟩ |
      ⟨_, _, hform, hline⟩ | ⟨_, _, hform, hline⟩ | hform
    all_goals
      rw [h] at hform
      cases hform
    exact hline
  · rintro rfl
    rfl

theorem form_eq_closing_iff {line : List Char} :
    LineForm.of line = .closing ↔ line = ['\x7d'] := by
  constructor
  · intro h
    rcases form_cases line with ⟨hform, hline⟩ | ⟨hform, hline⟩ |
      ⟨_, _, hform, hline⟩ | ⟨_, _, hform, hline⟩ | hform
    all_goals
      rw [h] at hform
      cases hform
    exact hline
  · rintro rfl
    rfl

/-- A line has the form of a heading exactly when it reads as one. -/
theorem form_eq_heading_iff {line name : List Char} {opened : Bool} :
    LineForm.of line = .heading name opened ↔
      heading? line = some (name, opened) := by
  constructor
  · intro h
    rcases form_cases line with ⟨hform, hline⟩ | ⟨hform, hline⟩ |
      ⟨_, _, hform, hline⟩ | ⟨_, _, hform, hline⟩ | hform
    all_goals
      rw [h] at hform
      cases hform
    exact hline
  · intro h
    -- the braces alone come first, but neither of them reads as a heading
    have hopen : line ≠ ['\x7b'] := by
      rintro rfl
      rw [show heading? ['\x7b'] = none from rfl] at h
      cases h
    have hclose : line ≠ ['\x7d'] := by
      rintro rfl
      rw [show heading? ['\x7d'] = none from rfl] at h
      cases h
    rw [LineForm.of, if_neg hopen, if_neg hclose, h]

/-- A heading without its brace is a name and nothing else, once the line is
    trimmed. -/
theorem form_eq_heading_false_iff {line name : List Char} (htrim : trim line = line) :
    LineForm.of line = .heading name false ↔ line = name ∧ IsName name := by
  rw [form_eq_heading_iff, heading?_eq_some_iff]
  simp only [Bool.false_eq_true, if_false, List.append_nil]
  constructor
  · rintro ⟨hname, gap, hgap, rfl⟩
    refine ⟨?_, hname⟩
    rw [← htrim, trim_append_of_blank_right hgap, hname.trim_eq_self]
  · rintro ⟨rfl, hname⟩
    exact ⟨hname, [], nofun, (List.append_nil line).symm⟩

/-- A heading with its brace is a name, blanks and the brace. -/
theorem form_eq_heading_true_iff {line name : List Char} :
    LineForm.of line = .heading name true ↔
      IsName name ∧ ∃ gap, (∀ c ∈ gap, isBlank c = true) ∧
        line = name ++ gap ++ ['\x7b'] := by
  rw [form_eq_heading_iff, heading?_eq_some_iff]
  rfl

/-- A line has the form of an entry exactly when it is one. -/
theorem isEntry_iff_form {line : List Char} {entry : String × String} :
    IsEntry line entry ↔
      ∃ key value, LineForm.of line = .entry key value ∧
        entry = (String.ofList key, String.ofList value) := by
  constructor
  · rintro ⟨hne, hfirst⟩
    rename_i key value
    -- with its `=`, the line is neither a brace nor a heading
    have hmem : '=' ∈ key ++ '=' :: value := by simp
    have hopen : key ++ '=' :: value ≠ ['\x7b'] := by
      intro h
      rw [h] at hmem
      exact absurd hmem (by decide)
    have hclose : key ++ '=' :: value ≠ ['\x7d'] := by
      intro h
      rw [h] at hmem
      exact absurd hmem (by decide)
    refine ⟨trim key, trim value, ?_, rfl⟩
    have hentry : entry? (key ++ '=' :: value) = some (trim key, trim value) :=
      entry?_eq_some_iff.mpr ⟨key, value, hne, hfirst, rfl, rfl, rfl⟩
    rw [LineForm.of, if_neg hopen, if_neg hclose, heading?_eq_none_of_mem hmem,
      hentry]
  · rintro ⟨key, value, hform, rfl⟩
    have hentry : entry? line = some (key, value) := by
      rcases form_cases line with ⟨h, hline⟩ | ⟨h, hline⟩ |
        ⟨_, _, h, hline⟩ | ⟨_, _, h, hline⟩ | h
      all_goals
        rw [hform] at h
        cases h
      exact hline
    obtain ⟨before, after, hne, hfirst, rfl, rfl, rfl⟩ :=
      entry?_eq_some_iff.mp hentry
    exact IsEntry.mk hne hfirst

theorem not_isEntry_nil {entry : String × String} : ¬ IsEntry [] entry := by
  intro h
  obtain ⟨key, value, hform, -⟩ := isEntry_iff_form.mp h
  cases hform

end ContractRules.Block
