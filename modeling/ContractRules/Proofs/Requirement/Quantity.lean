import ContractRules.Requirement.Title
import ContractRules.Proofs.Requirement.Evaluation
import ContractRules.Proofs.Text.Split

/-! # Quantities — what a title says of the count

    A requirement without a title of its own is given one that says how many
    contracts are needed.  There are five ways to say so, and what each of them
    means is laid down here apart from any requirement (`Quantity.Allows`).

    A reader has nothing but the text of the title.  It is enough: the phrase ends
    at the first parenthesis, and no two quantities are worded alike
    (`AnnouncedBy.unique`).

    The phrase for two bounds is the first that fits, and several may fit.  All the
    same it allows the counts within the bounds and no others, as long as the count
    itself fits 32 bits (`allows_ofBounds_iff`). -/

namespace ContractRules

/-- What can be said of a count. -/
inductive Quantity where
  | exactly (number : Nat)
  | any
  | atMost (number : Nat)
  | atLeast (number : Nat)
  | between (least greatest : Nat)

namespace Quantity

/-- Whether a count is as it is said to be. -/
def Allows : Quantity → Nat → Prop
  | exactly number, count => count = number
  | any, _ => True
  | atMost number, count => count ≤ number
  | atLeast number, count => number ≤ count
  | between least greatest, count => least ≤ count ∧ count ≤ greatest

/-- How it is said. -/
def text : Quantity → String
  | exactly number => "exactly " ++ toString number
  | any => "any number of"
  | atMost number => "at most " ++ toString number
  | atLeast number => "at least " ++ toString number
  | between least greatest =>
    "between " ++ toString least ++ " and " ++ toString greatest

/-- A title announces a quantity: it says what contracts must have been, how many
    of them, and which ones. -/
def AnnouncedBy (quantity : Quantity) (title : String) : Prop :=
  ∃ (kind : Requirement.Kind) (contracts : String),
    title = kind.phrase ++ " " ++ quantity.text ++ " contract(s): " ++ contracts

/-! ## The text tells the quantity -/

/-- How the text begins. -/
private def opening : Quantity → List Char
  | exactly _ => ['e', 'x', 'a', 'c']
  | any => ['a', 'n', 'y', ' ']
  | atMost _ => ['a', 't', ' ', 'm']
  | atLeast _ => ['a', 't', ' ', 'l']
  | between _ _ => ['b', 'e', 't', 'w']

private theorem take_toList_text (quantity : Quantity) :
    quantity.text.toList.take 4 = quantity.opening := by
  cases quantity with
  | any => rfl
  | exactly _ | atMost _ | atLeast _ =>
      rw [text, String.toList_append]
      rfl
  | between _ _ =>
      rw [text, String.append_assoc, String.append_assoc, String.toList_append]
      rfl

/-- The first number ends at the first blank. -/
private theorem numbers_inj {least greatest least' greatest' : Nat}
    (h : toString least ++ " and " ++ toString greatest =
      toString least' ++ " and " ++ toString greatest') :
    least = least' ∧ greatest = greatest' := by
  have hfirst (number : Nat) (rest : String) :
      (toString number ++ " and " ++ rest).toList.takeWhile (· != ' ') =
        (toString number).toList := by
    rw [String.append_assoc, String.toList_append, String.toList_append]
    exact Text.takeWhile_append_cons (Text.not_mem_toString rfl number) _
  have hleast : toString least = toString least' := by
    rw [← String.toList_inj, ← hfirst least, ← hfirst least', h]
  rw [hleast, String.append_right_inj] at h
  exact ⟨Text.toString_inj hleast, Text.toString_inj h⟩

/-- No two quantities are put in the same words. -/
theorem text_injective : Function.Injective text := by
  intro quantity other h
  have hopening : quantity.opening = other.opening := by
    rw [← take_toList_text, ← take_toList_text, h]
  cases quantity <;> cases other
  case any.any => rfl
  case exactly.exactly => rw [Text.toString_inj ((String.append_right_inj _).mp h)]
  case atMost.atMost => rw [Text.toString_inj ((String.append_right_inj _).mp h)]
  case atLeast.atLeast => rw [Text.toString_inj ((String.append_right_inj _).mp h)]
  case between.between =>
    simp only [text, String.append_assoc, String.append_right_inj] at h
    simp only [← String.append_assoc] at h
    obtain ⟨hleast, hgreatest⟩ := numbers_inj h
    rw [hleast, hgreatest]
  -- the others do not even begin alike
  all_goals exact absurd hopening (by simp [opening])

private theorem not_mem_text (quantity : Quantity) : '(' ∉ quantity.text.toList := by
  have hnumber (number : Nat) : '(' ∉ (toString number).toList :=
    Text.not_mem_toString rfl number
  cases quantity with
  | any => decide
  | exactly _ | atMost _ | atLeast _ =>
      rw [text, String.toList_append, List.mem_append, not_or]
      exact ⟨by decide, hnumber _⟩
  | between _ _ =>
      simp only [text, String.toList_append, List.mem_append, not_or]
      exact ⟨⟨⟨by decide, hnumber _⟩, by decide⟩, hnumber _⟩

/-- What stands in front of the first parenthesis of a title. -/
private theorem takeWhile_announcement (kind : Requirement.Kind) (quantity : Quantity)
    (contracts : String) :
    (kind.phrase ++ " " ++ quantity.text ++ " contract(s): " ++
        contracts).toList.takeWhile (· != '(') =
      (kind.phrase ++ " " ++ quantity.text ++ " contract").toList := by
  have hfront : '(' ∉ (kind.phrase ++ " " ++ quantity.text ++ " contract").toList := by
    have hphrase : '(' ∉ kind.phrase.toList := by cases kind <;> decide
    simp only [String.toList_append, List.mem_append, not_or]
    exact ⟨⟨⟨hphrase, by decide⟩, quantity.not_mem_text⟩, by decide⟩
  have hsplit : kind.phrase ++ " " ++ quantity.text ++ " contract(s): " ++ contracts =
      kind.phrase ++ " " ++ quantity.text ++ " contract" ++ ("(s): " ++ contracts) := by
    have hwords : " contract(s): " = " contract" ++ "(s): " := rfl
    simp only [hwords, String.append_assoc]
  rw [hsplit, String.toList_append, String.toList_append (s := "(s): ")]
  exact Text.takeWhile_append_cons hfront _

/-- A title announces one quantity at most. -/
theorem AnnouncedBy.unique {quantity other : Quantity} {title : String}
    (h : quantity.AnnouncedBy title) (hother : other.AnnouncedBy title) :
    quantity = other := by
  obtain ⟨kind, contracts, rfl⟩ := h
  obtain ⟨kind', contracts', htitle⟩ := hother
  have hfront : kind.phrase ++ " " ++ quantity.text = kind'.phrase ++ " " ++ other.text := by
    rw [← String.append_left_inj " contract", ← String.toList_inj,
      ← takeWhile_announcement kind quantity contracts, htitle,
      takeWhile_announcement]
  -- the words for the kinds differ at their eleventh letters
  have hkind : kind.phrase.toList.take 11 = kind'.phrase.toList.take 11 := by
    have htake (kind : Requirement.Kind) (quantity : Quantity) :
        (kind.phrase ++ " " ++ quantity.text).toList.take 11 =
          kind.phrase.toList.take 11 := by
      rw [String.append_assoc, String.toList_append]
      exact List.take_append_of_le_length (by cases kind <;> decide)
    rw [← htake kind quantity, hfront, htake]
  have hsame : kind = kind' := by
    cases kind <;> cases kind'
    case complete.complete => rfl
    case accept.accept => rfl
    all_goals exact absurd hkind (by decide)
  rw [hsame, String.append_right_inj] at hfront
  exact text_injective hfront

/-! ## The quantity of two bounds -/

/-- What a title says of the counts that are within two bounds. -/
def ofBounds (least greatest : UInt32) : Quantity :=
  if least = greatest then exactly least.toNat
  else if least = 0 ∧ greatest = Requirement.unbounded then any
  else if least = 0 then atMost greatest.toNat
  else if greatest = Requirement.unbounded then atLeast least.toNat
  else between least.toNat greatest.toNat

/-- Counts are put in the words of the quantity that they bound. -/
theorem text_ofBounds (least greatest : UInt32) :
    (ofBounds least greatest).text = Requirement.countPhrase least greatest := by
  rw [ofBounds, Requirement.countPhrase]
  split
  · rfl
  split
  · rfl
  split
  · rfl
  split
  · rfl
  · rfl

/-- Which phrase is chosen makes no difference to the counts that it allows. -/
theorem allows_ofBounds_iff {least greatest : UInt32} {count : Nat}
    (hcount : count < 4294967296) :
    (ofBounds least greatest).Allows count ↔
      least.toNat ≤ count ∧ count ≤ greatest.toNat := by
  have hzero : least = 0 → least.toNat = 0 := by
    rintro rfl
    rfl
  have hunbounded : greatest = Requirement.unbounded → greatest.toNat = 4294967295 := by
    rintro rfl
    rfl
  -- the five phrases in the order in which they are tried
  rw [ofBounds]
  split
  next heq =>
    rw [← heq]
    show count = _ ↔ _
    omega
  split
  next hany =>
    obtain ⟨hleast, hgreatest⟩ := hany
    refine iff_of_true trivial ⟨?_, ?_⟩
    · rw [hzero hleast]
      exact Nat.zero_le count
    · rw [hunbounded hgreatest]
      omega
  split
  next hleast =>
    show count ≤ _ ↔ _
    rw [hzero hleast]
    omega
  split
  next hgreatest =>
    show _ ≤ count ↔ _
    rw [hunbounded hgreatest]
    omega
  · exact Iff.rfl

end Quantity

namespace Requirement

/-- **A title that is made up tells the truth.**  It announces one quantity, and the
    requirement is met by just the histories in which the number of contracts that
    count is as announced, provided that it fits 32 bits. -/
theorem isMet_iff_of_announcedBy (registry : Registry) (wording : Wording)
    (requirement : Requirement) (huntitled : requirement.base.title? = none) :
    ∃ quantity : Quantity,
      (∀ other : Quantity, other.AnnouncedBy (requirement.title registry wording) ↔
        other = quantity) ∧
      ∀ records : List ContractRecord, records.countP requirement.counts < 4294967296 →
        (requirement.isMet records = true ↔
          quantity.Allows (records.countP requirement.counts)) := by
  have hannounced : (Quantity.ofBounds requirement.least requirement.greatest).AnnouncedBy
      (requirement.title registry wording) := by
    refine ⟨requirement.kind, requirement.contractTitle registry wording, ?_⟩
    rw [title, huntitled, Quantity.text_ofBounds]
  refine ⟨Quantity.ofBounds requirement.least requirement.greatest, ?_, ?_⟩
  · intro other
    constructor
    · intro hother
      exact hother.unique hannounced
    · rintro rfl
      exact hannounced
  · intro records hcount
    rw [Quantity.allows_ofBounds_iff hcount, isMet_iff]
    constructor
    · rintro ⟨hleast, hgreatest | hunbounded⟩
      · exact ⟨hleast, hgreatest⟩
      · -- an unbounded maximum is the greatest number of 32 bits
        rw [hunbounded]
        exact ⟨hleast, Nat.le_of_lt_succ hcount⟩
    · rintro ⟨hleast, hgreatest⟩
      exact ⟨hleast, Or.inl hgreatest⟩

/-- A requirement that most histories do not meet. -/
def scarce : Requirement :=
  ⟨Base.ofKind "AcceptContract", .accept, .tag "rescue", 0, 1⟩

/-- A contract that it counts. -/
def rescue : ContractRecord :=
  ⟨"Salvage", ["late", "rescue"], { Lifecycle.none with active := true }⟩

/-- At most one contract: one is enough, and two are too many. -/
theorem isMet_iff_of_announcedBy_scarce :
    scarce.base.title? = none ∧
      (∀ quantity : Quantity,
        quantity.AnnouncedBy
            "Must have accepted at most 1 contract(s): of type rescue" ↔
          quantity = .atMost 1) ∧
      [rescue].countP scarce.counts < 4294967296 ∧ scarce.isMet [rescue] = true ∧
      [rescue, rescue].countP scarce.counts < 4294967296 ∧
      scarce.isMet [rescue, rescue] = false := by
  obtain ⟨quantity, hannounced, hmet⟩ :=
    isMet_iff_of_announcedBy .empty .none scarce rfl
  have htitle : scarce.title .empty .none =
      "Must have accepted at most 1 contract(s): of type rescue" := rfl
  rw [htitle] at hannounced
  obtain rfl : .atMost 1 = quantity :=
    (hannounced (.atMost 1)).mp ⟨.accept, "of type rescue", rfl⟩
  refine ⟨rfl, hannounced, by decide, ?_, by decide, ?_⟩
  · exact (hmet [rescue] (by decide)).mpr (Nat.le_refl 1)
  · rw [Bool.eq_false_iff, ne_eq, hmet [rescue, rescue] (by decide)]
    exact Nat.not_succ_le_self 1

end Requirement

end ContractRules
