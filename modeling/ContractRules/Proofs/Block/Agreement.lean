import ContractRules.Block.Basic
import Mathlib.Logic.Relation

/-! # Agreement — blocks that say the same where they are read

    A reader of a block looks up the first value under some keys, the scalar ones,
    and all values under others.  Blocks that agree there are alike to it
    (`Alike`), however different they are otherwise.

    Alike blocks come from one another by edits: an entry under a key that is not
    read, a later value under a scalar key, entries with different keys in another
    order.  No edit changes what is read (`Edit.alike`), so neither does a row of
    edits, in either direction (`alike_of_eqvGen`). -/

namespace ContractRules.Block

/-- Two blocks have one name, the same first values under the scalar keys, and the
    same values under the keys of lists. -/
structure Alike (scalars lists : List String) (block other : Block) : Prop where
  name : other.name = block.name
  first : ∀ key ∈ scalars, other.first? key = block.first? key
  all : ∀ key ∈ lists, other.all key = block.all key

/-- The second block is the first one with one edit that no reader of these keys
    sees. -/
inductive Edit (scalars lists : List String) : Block → Block → Prop where
  /-- An entry comes in under a key that is not read. -/
  | unread {name key value : String} {before after : List (String × String)}
      (hscalar : key ∉ scalars) (hlist : key ∉ lists) :
      Edit scalars lists ⟨name, before ++ after⟩ ⟨name, before ++ (key, value) :: after⟩
  /-- An entry comes in behind another one with its key, which is no list. -/
  | later {name key value : String} {before after : List (String × String)}
      (hbefore : ∃ entry ∈ before, entry.1 = key) (hlist : key ∉ lists) :
      Edit scalars lists ⟨name, before ++ after⟩ ⟨name, before ++ (key, value) :: after⟩
  /-- Neighbours with different keys change places. -/
  | swap {name : String} {first second : String × String}
      {before after : List (String × String)} (hne : first.1 ≠ second.1) :
      Edit scalars lists ⟨name, before ++ first :: second :: after⟩
        ⟨name, before ++ second :: first :: after⟩

variable {scalars lists : List String} {block other third : Block}

/-! ## Alike blocks -/

theorem Alike.refl (block : Block) : block.Alike scalars lists block :=
  ⟨rfl, fun _ _ => rfl, fun _ _ => rfl⟩

theorem Alike.symm (h : block.Alike scalars lists other) :
    other.Alike scalars lists block :=
  ⟨h.name.symm, fun key hmem => (h.first key hmem).symm,
    fun key hmem => (h.all key hmem).symm⟩

theorem Alike.trans (h : block.Alike scalars lists other)
    (hother : other.Alike scalars lists third) : block.Alike scalars lists third :=
  ⟨hother.name.trans h.name,
    fun key hmem => (hother.first key hmem).trans (h.first key hmem),
    fun key hmem => (hother.all key hmem).trans (h.all key hmem)⟩

/-! ## Edits -/

/-- An entry makes no difference under other keys. -/
theorem all_insert_of_ne {name key value lookup : String}
    {before after : List (String × String)} (hne : key ≠ lookup) :
    (⟨name, before ++ (key, value) :: after⟩ : Block).all lookup =
      (⟨name, before ++ after⟩ : Block).all lookup := by
  rw [all, all, List.filter_append, List.filter_append, List.filter_cons_of_neg]
  rw [beq_iff_eq]
  exact hne

/-- An entry behind another one with its key is never the first. -/
theorem first?_insert_of_mem {name key value : String}
    {before after : List (String × String)} (h : ∃ entry ∈ before, entry.1 = key) :
    (⟨name, before ++ (key, value) :: after⟩ : Block).first? key =
      (⟨name, before ++ after⟩ : Block).first? key := by
  obtain ⟨found, hfound⟩ : ∃ found, before.find? (·.1 == key) = some found := by
    simpa only [← Option.isSome_iff_exists, List.find?_isSome, beq_iff_eq] using h
  rw [first?, first?, List.find?_append, List.find?_append, hfound, Option.some_or,
    Option.some_or]

/-- Of two neighbours with different keys a look-up passes one over. -/
theorem all_swap {name : String} {first second : String × String}
    {before after : List (String × String)} (hne : first.1 ≠ second.1)
    (lookup : String) :
    (⟨name, before ++ second :: first :: after⟩ : Block).all lookup =
      (⟨name, before ++ first :: second :: after⟩ : Block).all lookup := by
  obtain ⟨firstKey, firstValue⟩ := first
  obtain ⟨secondKey, secondValue⟩ := second
  by_cases hfirst : firstKey = lookup
  · have hsecond : secondKey ≠ lookup := fun h => hne (hfirst.trans h.symm)
    rw [all_insert_of_ne hsecond,
      List.append_cons before (firstKey, firstValue) ((secondKey, secondValue) :: after),
      all_insert_of_ne hsecond, ← List.append_cons]
  · rw [all_insert_of_ne hfirst,
      List.append_cons before (secondKey, secondValue) ((firstKey, firstValue) :: after),
      all_insert_of_ne hfirst, ← List.append_cons]

/-- An edit does not change what is read. -/
theorem Edit.alike (h : Edit scalars lists block other) :
    block.Alike scalars lists other := by
  cases h with
  | unread hscalar hlist =>
      refine ⟨rfl, fun lookup hmem => ?_, fun lookup hmem => ?_⟩
      · rw [first?_eq_head?, first?_eq_head?,
          all_insert_of_ne (ne_of_mem_of_not_mem hmem hscalar).symm]
      · exact all_insert_of_ne (ne_of_mem_of_not_mem hmem hlist).symm
  | @later _ key _ _ _ hbefore hlist =>
      refine ⟨rfl, fun lookup _ => ?_, fun lookup hmem => ?_⟩
      · by_cases hkey : key = lookup
        · subst hkey
          exact first?_insert_of_mem hbefore
        · rw [first?_eq_head?, first?_eq_head?, all_insert_of_ne hkey]
      · exact all_insert_of_ne (ne_of_mem_of_not_mem hmem hlist).symm
  | swap hne =>
      refine ⟨rfl, fun lookup _ => ?_, fun lookup _ => all_swap hne lookup⟩
      rw [first?_eq_head?, first?_eq_head?, all_swap hne]

/-- Blocks that come from one another by edits are alike. -/
theorem alike_of_eqvGen (h : Relation.EqvGen (Edit scalars lists) block other) :
    block.Alike scalars lists other := by
  induction h with
  | rel _ _ hedit => exact hedit.alike
  | refl block => exact Alike.refl block
  | symm _ _ _ ih => exact ih.symm
  | trans _ _ _ _ _ hfirst hsecond => exact hfirst.trans hsecond

end ContractRules.Block
