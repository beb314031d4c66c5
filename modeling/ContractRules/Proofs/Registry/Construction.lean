import ContractRules.Proofs.Registry.Growth
import Mathlib.Data.List.TakeWhile

/-! # Construction — what a row of registrations builds

    Registrations are collected in order and then checked.  The check is two
    searches, through the declarative names and through the compiled keys, and
    both look for the first item that is at fault behind the items before it
    (`firstFault?`).  Such an item splits its row in a unique way, so the outcome
    of a search can be told from the row alone (`FirstFault`).

    A row without a fault builds, and then the registry is the row: declarative
    types in order, and compiled types under their keys (`build_collect`). -/

namespace ContractRules

/-! ## Bare names -/

namespace CompiledType

/-- The name behind the last mark of a path: there is no mark in it, and either
    it is the whole path or it stands behind a mark. -/
def IsBareName (path name : List Char) : Prop :=
  (∀ c ∈ name, c ≠ '.' ∧ c ≠ ':') ∧
    (path = name ∨
      ∃ front mark, (mark = '.' ∨ mark = ':') ∧ path = front ++ mark :: name)

private theorem noMark_iff {c : Char} :
    (c != '.' && c != ':') = true ↔ c ≠ '.' ∧ c ≠ ':' := by
  rw [Bool.and_eq_true, bne_iff_ne, bne_iff_ne]

/-- A path has one bare name, and that is what its type is called. -/
theorem bareName_eq_iff {path name : List Char} :
    bareName path = name ↔ IsBareName path name := by
  constructor
  · rintro rfl
    constructor
    · intro c hmem
      rw [bareName, List.mem_reverse] at hmem
      exact noMark_iff.mp (List.mem_takeWhile_imp hmem :)
    · have hsplit : path =
          (path.reverse.dropWhile fun c => c != '.' && c != ':').reverse ++
            bareName path := by
        rw [bareName, ← List.reverse_append, List.takeWhile_append_dropWhile,
          List.reverse_reverse]
      -- what is dropped from the back begins with the mark, if with anything
      cases hrest : path.reverse.dropWhile fun c => c != '.' && c != ':' with
      | nil =>
          rw [hrest] at hsplit
          exact Or.inl hsplit
      | cons mark front =>
          refine Or.inr ⟨front.reverse, mark, ?_, ?_⟩
          · by_contra hnot
            rw [not_or] at hnot
            have hhead := List.head?_dropWhile_not
              (fun c => c != '.' && c != ':') path.reverse
            rw [hrest] at hhead
            exact Bool.false_ne_true (hhead.symm.trans (noMark_iff.mpr hnot))
          · rw [hrest, List.reverse_cons, List.append_assoc] at hsplit
            exact hsplit
  · -- read from the back, the name ends at the first mark or not at all
    rintro ⟨hclean, rfl | ⟨front, mark, hmark, rfl⟩⟩
    · rw [bareName, List.takeWhile_eq_self_iff.mpr, List.reverse_reverse]
      intro c hmem
      exact noMark_iff.mpr (hclean c (List.mem_reverse.mp hmem))
    · rw [bareName, List.reverse_append, List.reverse_cons, List.append_assoc,
        List.takeWhile_append_of_pos, List.singleton_append,
        List.takeWhile_cons_of_neg, List.append_nil, List.reverse_reverse]
      · rw [noMark_iff]
        rintro ⟨hpoint, hcolon⟩
        exact hmark.elim hpoint hcolon
      · intro c hmem
        exact noMark_iff.mpr (hclean c (List.mem_reverse.mp hmem))

end CompiledType

namespace Registry

/-! ## Registrations -/

/-- One registration. -/
inductive Registration where
  | declarative (type : DeclarativeType)
  /-- A compiled type under its bare name. -/
  | compiled (type : CompiledType)
  | compiledAs (key : String) (type : CompiledType)

namespace Registration

/-- The declarative type of a registration. -/
def declarative? : Registration → Option DeclarativeType
  | declarative type => some type
  | compiled _ | compiledAs .. => none

/-- The compiled type of a registration, with its key. -/
def entry? : Registration → Option (String × CompiledType)
  | declarative _ => none
  | compiled type => some (type.name, type)
  | compiledAs key type => some (key, type)

/-- The declarative types of some registrations, in order. -/
def types (row : List Registration) : List DeclarativeType :=
  row.filterMap declarative?

/-- The compiled types of some registrations with their keys, in order. -/
def entries (row : List Registration) : List (String × CompiledType) :=
  row.filterMap entry?

/-- The names of the declarative types, in their order. -/
def names (row : List Registration) : List String := (types row).map (·.name)

/-- The keys of the compiled types, in their order. -/
def keys (row : List Registration) : List String := (entries row).map (·.1)

end Registration

namespace Draft

open Registration

/-- Makes one registration. -/
def register (draft : Draft) : Registration → Draft
  | .declarative type => draft.addDeclarative type
  | .compiled type => draft.addCompiled type
  | .compiledAs key type => draft.addCompiledAs key type

/-- Makes some registrations, in order. -/
def collect (row : List Registration) : Draft := row.foldl register empty

/-- A draft grows by what a registration is of. -/
theorem register_eq (draft : Draft) (registration : Registration) :
    draft.register registration =
      ⟨draft.declarative ++ registration.declarative?.toList,
        draft.compiled ++ registration.entry?.toList⟩ := by
  cases registration with
  | declarative type =>
      show Draft.mk _ _ = Draft.mk _ (draft.compiled ++ [])
      rw [List.append_nil]
      rfl
  | compiled type | compiledAs key type =>
      show Draft.mk _ _ = Draft.mk (draft.declarative ++ []) _
      rw [List.append_nil]
      rfl

/-- Registrations come behind what a draft has, each kind in its own order. -/
theorem foldl_register (draft : Draft) (row : List Registration) :
    row.foldl register draft =
      ⟨draft.declarative ++ types row, draft.compiled ++ entries row⟩ := by
  induction row generalizing draft with
  | nil => rw [types, entries, List.filterMap_nil, List.filterMap_nil,
      List.append_nil, List.append_nil, List.foldl_nil]
  | cons first rest ih =>
      have htypes : types (first :: rest) = first.declarative?.toList ++ types rest := by
        cases first <;> rfl
      have hentries : entries (first :: rest) = first.entry?.toList ++ entries rest := by
        cases first <;> rfl
      rw [List.foldl_cons, ih, register_eq, htypes, hentries, List.append_assoc,
        List.append_assoc]

/-- A draft has the types and the entries of its registrations. -/
theorem collect_eq (row : List Registration) : collect row = ⟨types row, entries row⟩ :=
  foldl_register empty row

end Draft

/-! ## The first fault of a row -/

/-- Looks for the first item that is at fault behind those before it. -/
def firstFault? {α ε : Type} (fault? : List α → α → Option ε) (seen : List α) :
    List α → Option ε
  | [] => none
  | item :: rest => (fault? seen item).or (firstFault? fault? (seen ++ [item]) rest)

section
variable {α ε : Type} {fault? : List α → α → Option ε} {seen : List α} {error : ε}

/-- The first fault of two rows is that of the first row, or else that of the second
    one behind it. -/
theorem firstFault?_append (before after : List α) :
    firstFault? fault? seen (before ++ after) =
      (firstFault? fault? seen before).or
        (firstFault? fault? (seen ++ before) after) := by
  induction before generalizing seen with
  | nil => rw [List.nil_append, List.append_nil, firstFault?, Option.none_or]
  | cons first rest ih =>
      rw [List.cons_append, firstFault?, firstFault?, ih, Option.or_assoc,
        List.append_assoc, List.singleton_append]

/-- A first fault lies with an item that has no fault before it. -/
theorem exists_of_firstFault? {row : List α}
    (h : firstFault? fault? seen row = some error) :
    ∃ before item after, row = before ++ item :: after ∧
      fault? (seen ++ before) item = some error ∧
      firstFault? fault? seen before = none := by
  induction row generalizing seen with
  | nil => cases h
  | cons first rest ih =>
      rw [firstFault?, Option.or_eq_some_iff] at h
      obtain hfirst | ⟨hnone, hrest⟩ := h
      · refine ⟨[], first, rest, rfl, ?_, rfl⟩
        rw [List.append_nil]
        exact hfirst
      · obtain ⟨before, item, after, rfl, hfault, hclean⟩ := ih hrest
        refine ⟨first :: before, item, after, rfl, ?_, ?_⟩
        · rwa [List.append_assoc, List.singleton_append] at hfault
        · rw [firstFault?, hnone, Option.none_or, hclean]

/-- Nothing is found if no item is at fault behind those before it. -/
theorem firstFault?_eq_none_iff {row : List α} :
    firstFault? fault? seen row = none ↔
      ∀ earlier other later, row = earlier ++ other :: later →
        fault? (seen ++ earlier) other = none := by
  constructor
  · rintro h earlier other later rfl
    rw [firstFault?_append, Option.or_eq_none_iff, firstFault?,
      Option.or_eq_none_iff] at h
    exact h.2.1
  · intro hclean
    by_contra hsome
    obtain ⟨error, herror⟩ := Option.ne_none_iff_exists'.mp hsome
    obtain ⟨before, item, after, hrow, hfault, -⟩ := exists_of_firstFault? herror
    rw [hclean before item after hrow] at hfault
    cases hfault

end

/-- An error is the first fault of a row: the fault of an item behind the items
    before it, none of which is at fault. -/
def FirstFault {α ε : Type} (fault? : List α → α → Option ε) (row : List α)
    (error : ε) : Prop :=
  ∃ before item after, row = before ++ item :: after ∧
    fault? before item = some error ∧
    ∀ earlier other later, before = earlier ++ other :: later →
      fault? earlier other = none

/-- The search finds the first fault, and nothing else. -/
theorem firstFault?_eq_some_iff {α ε : Type} {fault? : List α → α → Option ε}
    {row : List α} {error : ε} :
    firstFault? fault? [] row = some error ↔ FirstFault fault? row error := by
  constructor
  · intro h
    obtain ⟨before, item, after, hrow, hfault, hclean⟩ := exists_of_firstFault? h
    exact ⟨before, item, after, hrow, hfault, firstFault?_eq_none_iff.mp hclean⟩
  · rintro ⟨before, item, after, rfl, hfault, hclean⟩
    rw [firstFault?_append, firstFault?_eq_none_iff.mpr hclean, Option.none_or,
      firstFault?, List.nil_append, hfault, Option.some_or]

/-! ## Faults of names and keys -/

/-- What is wrong with a declarative name behind other names. -/
def nameFaultBehind? (earlier : List String) (name : String) : Option RegistryError :=
  if name = "" then some .unnamed
  else if name ∈ earlier then some (.repeatedName name)
  else none

/-- What is wrong with a key behind other keys. -/
def keyFaultBehind? (earlier : List String) (key : String) : Option RegistryError :=
  if key ∈ earlier then some (.repeatedKey key) else none

namespace Draft

open Registration

/-- A text that is passed over joins those before it, at whichever end these grow. -/
private theorem mem_passed_iff {seen earlier : List String}
    (h : ∀ text, text ∈ seen ↔ text ∈ earlier) (passed : String) :
    ∀ text, text ∈ passed :: seen ↔ text ∈ earlier ++ [passed] := by
  intro text
  rw [List.mem_cons, List.mem_append, List.mem_singleton, h, or_comm]

/-- The check of names finds the first name at fault, behind the same names in any
    order. -/
theorem nameFault?_eq {seen earlier : List String}
    (h : ∀ name, name ∈ seen ↔ name ∈ earlier) (types : List DeclarativeType) :
    nameFault? seen types =
      firstFault? nameFaultBehind? earlier (types.map (·.name)) := by
  -- the two lists keep the names in different orders, so membership is the invariant
  induction types generalizing seen earlier with
  | nil => rfl
  | cons type rest ih =>
      rw [nameFault?, List.map_cons, firstFault?, nameFaultBehind?]
      by_cases hempty : type.name = ""
      · rw [if_pos hempty, if_pos hempty, Option.some_or]
      by_cases hold : type.name ∈ seen
      · rw [if_neg hempty, if_neg hempty, if_pos hold, if_pos ((h _).mp hold),
          Option.some_or]
      · rw [if_neg hempty, if_neg hempty, if_neg hold,
          if_neg fun hnew => hold ((h _).mpr hnew), Option.none_or,
          ih (mem_passed_iff h type.name)]

/-- The check of keys finds the first key at fault, behind the same keys in any order.
    -/
theorem keyFault?_eq {seen earlier : List String}
    (h : ∀ key, key ∈ seen ↔ key ∈ earlier) (keys : List String) :
    keyFault? seen keys = firstFault? keyFaultBehind? earlier keys := by
  induction keys generalizing seen earlier with
  | nil => rfl
  | cons key rest ih =>
      rw [keyFault?, firstFault?, keyFaultBehind?]
      by_cases hold : key ∈ seen
      · rw [if_pos hold, if_pos ((h _).mp hold), Option.some_or]
      · rw [if_neg hold, if_neg fun hnew => hold ((h _).mpr hnew), Option.none_or,
          ih (mem_passed_iff h key)]

/-! ## Building -/

/-- What building can come to: the fault of a name, with clean names the fault of a
    key, and with clean keys as well a registry. -/
theorem build_cases (draft : Draft) :
    (∃ error, nameFault? [] draft.declarative = some error ∧
        draft.build = .error error) ∨
      nameFault? [] draft.declarative = none ∧
        ((∃ error, keyFault? [] (draft.compiled.map (·.1)) = some error ∧
            draft.build = .error error) ∨
          keyFault? [] (draft.compiled.map (·.1)) = none ∧
            ∃ registry, draft.build = .ok registry) := by
  rw [build]
  split
  · rename_i error hnames
    exact Or.inl ⟨error, hnames, rfl⟩
  · rename_i error hnames hkeys
    exact Or.inr ⟨hnames, Or.inl ⟨error, hkeys, rfl⟩⟩
  · rename_i hnames hkeys
    exact Or.inr ⟨hnames, Or.inr ⟨hkeys, _, rfl⟩⟩

/-- A draft builds exactly if neither its names nor its keys have a fault. -/
theorem exists_build_eq_ok_iff {draft : Draft} :
    (∃ registry, draft.build = .ok registry) ↔
      nameFault? [] draft.declarative = none ∧
        keyFault? [] (draft.compiled.map (·.1)) = none := by
  obtain ⟨error, hnames, hbuild⟩ | ⟨hnames, ⟨error, hkeys, hbuild⟩ | ⟨hkeys, hbuild⟩⟩ :=
    build_cases draft
  · rw [hbuild, hnames]
    exact iff_of_false nofun nofun
  · rw [hbuild, hkeys]
    exact iff_of_false nofun nofun
  · exact iff_of_true hbuild ⟨hnames, hkeys⟩

/-- A fault of the keys is told only of a draft whose names have none. -/
theorem build_eq_error_iff {draft : Draft} {error : RegistryError} :
    draft.build = .error error ↔
      nameFault? [] draft.declarative = some error ∨
        nameFault? [] draft.declarative = none ∧
          keyFault? [] (draft.compiled.map (·.1)) = some error := by
  obtain ⟨found, hnames, hbuild⟩ | ⟨hnames, ⟨found, hkeys, hbuild⟩ |
    ⟨hkeys, registry, hbuild⟩⟩ := build_cases draft
  · rw [hbuild, hnames]
    simp
  · rw [hbuild, hnames, hkeys]
    simp
  · rw [hbuild, hnames, hkeys]
    simp

/-- The two searches, said of a row of registrations. -/
private theorem faults_collect (row : List Registration) :
    nameFault? [] (collect row).declarative =
        firstFault? nameFaultBehind? [] (names row) ∧
      keyFault? [] ((collect row).compiled.map (·.1)) =
        firstFault? keyFaultBehind? [] (keys row) := by
  rw [collect_eq]
  exact ⟨nameFault?_eq (fun _ => Iff.rfl) _, keyFault?_eq (fun _ => Iff.rfl) _⟩

/-- **Registrations build exactly if they can be told apart.**  Declarative names
    have to be there and different, and keys have to be different; the key of a
    compiled type is its bare name or the one that it is given.  The registry has
    the declarative types in order, and under each key the type that was
    registered under it.  Otherwise the error is the first fault of the names,
    and only if they have none, the first fault of the keys. -/
theorem build_collect (row : List Registration) :
    (∀ path name, (CompiledType.ofPath (String.ofList path)).name.toList = name ↔
        CompiledType.IsBareName path name) ∧
      ((∃ registry, (collect row).build = .ok registry) ↔
        (∀ name ∈ names row, name ≠ "") ∧ (names row).Nodup ∧ (keys row).Nodup) ∧
      (∀ registry, (collect row).build = .ok registry →
        registry.declarative = types row ∧
          ∀ key type, registry.compiledAt? key = some type ↔
            (key, type) ∈ entries row) ∧
      ∀ error, (collect row).build = .error error ↔
        FirstFault nameFaultBehind? (names row) error ∨
          (∀ other, ¬ FirstFault nameFaultBehind? (names row) other) ∧
            FirstFault keyFaultBehind? (keys row) error := by
  obtain ⟨hnames, hkeys⟩ := faults_collect row
  refine ⟨?_, ?_, ?_, ?_⟩
  · intro path name
    rw [← CompiledType.bareName_eq_iff, CompiledType.ofPath, String.toList_ofList,
      String.toList_ofList]
  · rw [exists_build_eq_ok_iff, nameFault?_eq_none_iff, keyFault?_eq_none_iff, collect_eq]
    simp [names, keys, and_assoc]
  · intro registry hbuild
    obtain ⟨hdeclarative, hcompiled⟩ := types_of_build hbuild
    rw [collect_eq] at hdeclarative hcompiled
    refine ⟨hdeclarative, fun key type => ?_⟩
    rw [compiledAt?_eq_some_iff, hcompiled]
  · intro error
    -- faults of the keys come second: the names must be free of them
    have hnone : firstFault? nameFaultBehind? [] (names row) = none ↔
        ∀ other, ¬ FirstFault nameFaultBehind? (names row) other := by
      simp only [← firstFault?_eq_some_iff, Option.eq_none_iff_forall_ne_some, ne_eq]
    rw [build_eq_error_iff, hnames, hkeys, firstFault?_eq_some_iff,
      firstFault?_eq_some_iff, hnone]

/-- Registrations that can be told apart, although two types have one bare name
    and one declarative name is the beginning of the other. -/
def fleet : List Registration :=
  [.compiledAs "Rescue" (.ofPath "missions.Salvage"),
   .declarative ⟨"Escort", "see a convoy home", false⟩,
   .compiled (.ofPath "missions::Salvage"),
   .declarative ⟨"Esc", "leave", true⟩]

/-- Registrations in which a key repeats, and later a name, and then one is
    empty. -/
def crowd : List Registration :=
  [.compiled (.ofPath "missions.Rescue"),
   .compiledAs "Rescue" (.ofPath "missions:Tug"),
   .declarative ⟨"Escort", "see a convoy home", true⟩,
   .declarative ⟨"Escort", "see another convoy home", true⟩,
   .declarative ⟨"", "", true⟩]

/-- A fleet with one name in front of another builds; a crowd with the same name twice
    does not. -/
theorem build_collect_fleet :
    (∃ registry, (collect fleet).build = .ok registry ∧
      registry.declarative =
        [⟨"Escort", "see a convoy home", false⟩, ⟨"Esc", "leave", true⟩] ∧
      registry.compiledAt? "Salvage" = some ⟨"Salvage", "missions::Salvage"⟩ ∧
      registry.compiledAt? "Tug" = none) ∧
      (collect crowd).build = .error (.repeatedName "Escort") := by
  obtain ⟨-, hbuilds, hparts, -⟩ := build_collect fleet
  obtain ⟨-, -, -, hfails⟩ := build_collect crowd
  obtain ⟨registry, hbuild⟩ := hbuilds.mpr (by decide)
  obtain ⟨htypes, hentries⟩ := hparts registry hbuild
  have hfirst : FirstFault nameFaultBehind? (names crowd) (.repeatedName "Escort") :=
    firstFault?_eq_some_iff.mp rfl
  refine ⟨⟨registry, hbuild, htypes, (hentries _ _).mpr (by decide), ?_⟩,
    (hfails _).mpr (Or.inl hfirst)⟩
  refine Option.eq_none_iff_forall_ne_some.mpr fun type htype => ?_
  have hkey : "Tug" ∈ keys fleet :=
    List.mem_map.mpr ⟨_, (hentries _ _).mp htype, rfl⟩
  exact absurd hkey (by decide)

end Draft

end Registry

end ContractRules
