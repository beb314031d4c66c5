import ContractRules.Requirement.Title
import ContractRules.Proofs.Registry.Construction

/-! # Order — what the order of registrations cannot change

    Names and keys never repeat, and what never repeats can be put in any order:
    the registrations still build, and the registry still has the same types
    (`Draft.Reorders.exists_build_eq_ok`).

    Of two registries with the same types, each answers as the other does
    (`SameTypes.answersAs`).  A look-up by a name or a key finds the one type there
    is.  Only `declarativeFor?` takes the first of several types whose names an
    identifier begins with, and no one asks it for more than whether there is one.

    What an identifier means is a matter of these types alone, so it means the same
    whenever it is resolved again, and a compiled type is out of reach only where a
    declarative name stands in front of its key (`resolve_of_reorders`). -/

namespace ContractRules.Registry

/-- A draft holds the registrations of another one, the declarative ones and the
    compiled ones each in an order of its own. -/
structure Draft.Reorders (reordered draft : Draft) : Prop where
  declarative : reordered.declarative.Perm draft.declarative
  compiled : reordered.compiled.Perm draft.compiled

/-- Two registries have the same types. -/
structure SameTypes (other registry : Registry) : Prop where
  declarative : ∀ type, type ∈ other.declarative ↔ type ∈ registry.declarative
  compiled : ∀ entry, entry ∈ other.compiled ↔ entry ∈ registry.compiled

/-- A registry gives the answers of another one: to an identifier what it means and
    what the log is told, to names and keys the types under them, and to every
    requirement its title. -/
structure AnswersAs (other registry : Registry) : Prop where
  resolve : ∀ owner identifier,
    other.resolve owner identifier = registry.resolve owner identifier
  isShadowed : ∀ identifier, other.isShadowed identifier = registry.isShadowed identifier
  validNamed? : ∀ name, other.validNamed? name = registry.validNamed? name
  compiledAt? : ∀ key, other.compiledAt? key = registry.compiledAt? key
  title : ∀ wording (requirement : Requirement),
    requirement.title other wording = requirement.title registry wording

/-! ## Building in another order -/

/-- Registrations that build do so in any order, and the types stay the same. -/
theorem Draft.Reorders.exists_build_eq_ok {reordered draft : Draft}
    {registry : Registry} (h : reordered.Reorders draft)
    (hbuild : draft.build = .ok registry) :
    ∃ other, reordered.build = .ok other ∧ other.SameTypes registry := by
  obtain ⟨hnames, hkeys⟩ := exists_build_eq_ok_iff.mp ⟨registry, hbuild⟩
  rw [nameFault?_eq_none_iff] at hnames
  rw [keyFault?_eq_none_iff] at hkeys
  -- faults ask for members and repetitions, and order is neither
  have hbuilds : ∃ other, reordered.build = .ok other := by
    rw [exists_build_eq_ok_iff, nameFault?_eq_none_iff, keyFault?_eq_none_iff]
    refine ⟨⟨?_, (h.declarative.map _).nodup_iff.mpr hnames.2⟩,
      ⟨?_, (h.compiled.map _).nodup_iff.mpr hkeys.2⟩⟩
    · intro type htype
      exact hnames.1 type (h.declarative.mem_iff.mp htype)
    · intro key hkey
      exact hkeys.1 key ((h.compiled.map _).mem_iff.mp hkey)
  obtain ⟨other, hother⟩ := hbuilds
  obtain ⟨hdeclarative, hcompiled⟩ := types_of_build hbuild
  obtain ⟨hdeclarative', hcompiled'⟩ := types_of_build hother
  refine ⟨other, hother, ?_, ?_⟩
  · intro type
    rw [hdeclarative, hdeclarative']
    exact h.declarative.mem_iff
  · intro entry
    rw [hcompiled, hcompiled']
    exact h.compiled.mem_iff

/-! ## Look-ups are a matter of membership -/

/-- A name finds the one type that has it, if that is valid. -/
theorem validNamed?_eq_some_iff {registry : Registry} {name : String}
    {type : DeclarativeType} :
    registry.validNamed? name = some type ↔
      type ∈ registry.declarative ∧ type.valid = true ∧ type.name = name := by
  have hunique : ∀ type ∈ registry.declarative, ∀ other ∈ registry.declarative,
      (type.valid && type.name == name) = true →
        (other.valid && other.name == name) = true → type = other := by
    simp only [Bool.and_eq_true, beq_iff_eq]
    rintro type htype other hother ⟨-, hname⟩ ⟨-, hname'⟩
    exact List.inj_on_of_nodup_map registry.names_nodup htype hother
      (hname.trans hname'.symm)
  rw [validNamed?, find?_eq_some_iff_of_unique hunique, Bool.and_eq_true, beq_iff_eq]

namespace SameTypes

variable {other registry : Registry} (h : other.SameTypes registry)
include h

/-- The order of types does not matter to what they cover. -/
theorem covers_iff (identifier : String) :
    other.Covers identifier ↔ registry.Covers identifier := by
  simp only [Covers, h.declarative]

theorem resolve?_eq (identifier : String) :
    other.resolve? identifier = registry.resolve? identifier := by
  refine Option.ext fun ref => ?_
  cases ref with
  | declarative written =>
      rw [resolve?_eq_declarative_iff, resolve?_eq_declarative_iff, h.covers_iff]
  | compiled key type =>
      rw [resolve?_eq_compiled_iff, resolve?_eq_compiled_iff, h.covers_iff, h.compiled]

theorem isShadowed_eq (identifier : String) :
    other.isShadowed identifier = registry.isShadowed identifier := by
  rw [Bool.eq_iff_iff, isShadowed_iff, isShadowed_iff, HasTwoReadings, HasTwoReadings,
    h.covers_iff]
  simp only [h.compiled]

/-- Nor does it matter to which type has a name, as names are unique. -/
theorem validNamed?_eq (name : String) :
    other.validNamed? name = registry.validNamed? name := by
  refine Option.ext fun type => ?_
  rw [validNamed?_eq_some_iff, validNamed?_eq_some_iff, h.declarative]

/-- Nor does it matter to which type has a key, as keys are unique. -/
theorem compiledAt?_eq (key : String) :
    other.compiledAt? key = registry.compiledAt? key := by
  refine Option.ext fun type => ?_
  rw [compiledAt?_eq_some_iff, compiledAt?_eq_some_iff, h.compiled]

/-- A title asks the registry for nothing but the type of a name. -/
theorem title_eq (wording : Wording) (requirement : Requirement) :
    requirement.title other wording = requirement.title registry wording := by
  have htarget (target : Target) :
      target.title other wording = target.title registry wording := by
    match target with
    | .tag name => rfl
    | .type (.declarative identifier) =>
        rw [Target.title, Target.title, h.validNamed?_eq]
    | .type (.compiled key type) => rfl
  rw [Requirement.title, Requirement.title, Requirement.contractTitle,
    Requirement.contractTitle, htarget]

/-- Registries with the same types answer alike. -/
theorem answersAs : other.AnswersAs registry where
  resolve owner identifier := by
    rw [Registry.resolve, Registry.resolve, h.resolve?_eq, h.isShadowed_eq]
  isShadowed := h.isShadowed_eq
  validNamed? := h.validNamed?_eq
  compiledAt? := h.compiledAt?_eq
  title := h.title_eq

end SameTypes

/-! ## What an identifier means, again and at greater length -/

section
variable {registry : Registry} {identifier : String}

/-- The owner is told of a meaning, but has no part in it. -/
theorem value_resolve_eq_ok_iff {owner : String} {ref : TypeRef} :
    (registry.resolve owner identifier).value = .ok ref ↔
      registry.resolve? identifier = some ref := by
  rw [resolve]
  cases registry.resolve? identifier with
  | none => exact iff_of_false nofun nofun
  | some found => rw [Except.ok.injEq, Option.some_inj]

/-- What begins with a name still does so when it goes on. -/
theorem Covers.append (h : registry.Covers identifier) (suffix : String) :
    registry.Covers (identifier ++ suffix) := by
  obtain ⟨type, hmem, hprefix⟩ := h
  refine ⟨type, hmem, ?_⟩
  rw [String.toList_append]
  exact hprefix.trans (List.prefix_append _ _)

/-- A compiled type can be meant, by its key if by anything, unless the key has two
    readings. -/
theorem exists_resolve?_eq_compiled_iff {key : String} {type : CompiledType}
    (hmem : (key, type) ∈ registry.compiled) :
    (∃ identifier, registry.resolve? identifier = some (.compiled key type)) ↔
      registry.isShadowed key = false := by
  have hshadowed : registry.isShadowed key = true ↔ registry.Covers key := by
    rw [isShadowed_iff]
    exact and_iff_left ⟨_, hmem, rfl⟩
  rw [Bool.eq_false_iff, ne_eq, hshadowed]
  constructor
  · rintro ⟨identifier, hresolve⟩
    obtain ⟨hnot, rfl, -⟩ := resolve?_eq_compiled_iff.mp hresolve
    exact hnot
  · intro hnot
    exact ⟨key, resolve?_eq_compiled_iff.mpr ⟨hnot, rfl, hmem⟩⟩

end

/-- **The order of registrations does not matter to what identifiers mean.**  In
    every order the registrations build, and the registry answers the same.  What an
    identifier means goes by that identifier and means the same again, whoever asks;
    and if it is declarative, so is whatever begins with it.  A compiled type is
    meant by some identifier exactly if its key is not shadowed. -/
theorem resolve_of_reorders (draft : Draft) (registry : Registry)
    (hbuild : draft.build = .ok registry) :
    (∀ reordered : Draft, reordered.Reorders draft →
        ∃ other, reordered.build = .ok other ∧ other.AnswersAs registry) ∧
      (∀ owner identifier ref,
        (registry.resolve owner identifier).value = .ok ref →
          ref.identifier = identifier ∧
            (∀ asker, (registry.resolve asker ref.identifier).value = .ok ref) ∧
            ((∃ written, ref = .declarative written) → ∀ asker suffix,
              (registry.resolve asker (identifier ++ suffix)).value =
                .ok (.declarative (identifier ++ suffix)))) ∧
      ∀ key type, (key, type) ∈ registry.compiled →
        ((∃ owner identifier,
            (registry.resolve owner identifier).value = .ok (.compiled key type)) ↔
          registry.isShadowed key = false) := by
  refine ⟨?_, ?_, ?_⟩
  · intro reordered hreorders
    obtain ⟨other, hother, hsame⟩ := hreorders.exists_build_eq_ok hbuild
    exact ⟨other, hother, hsame.answersAs⟩
  · simp only [value_resolve_eq_ok_iff]
    intro owner identifier ref hresolve
    have hidentifier := identifier_of_resolve? hresolve
    refine ⟨hidentifier, ?_, ?_⟩
    · intro asker
      rw [hidentifier]
      exact hresolve
    · -- the declared name that covers the identifier covers what is longer
      rintro ⟨written, rfl⟩ asker suffix
      obtain ⟨hcovers, -⟩ := resolve?_eq_declarative_iff.mp hresolve
      exact resolve?_of_covers (hcovers.append suffix)
  · intro key type hmem
    rw [← exists_resolve?_eq_compiled_iff hmem]
    simp only [value_resolve_eq_ok_iff, exists_const]

/-- Declarative names that begin one with the other, and a key that begins with
    both. -/
def convoys : Draft :=
  ⟨[⟨"Escort", "see a convoy home", true⟩, ⟨"Esc", "leave", false⟩],
    [("EscortNight", .ofPath "missions.Night"), ("Rescue", .ofPath "missions.Salvage")]⟩

/-- The same registrations, last ones first. -/
def convoysReversed : Draft := ⟨convoys.declarative.reverse, convoys.compiled.reverse⟩

/-- What the registrations build. -/
def convoyTypes : Registry where
  declarative := convoys.declarative
  compiled := convoys.compiled
  names_ne_empty := by decide
  names_nodup := by decide
  keys_nodup := by decide

/-- In the two orders an identifier finds different types first, and all the same
    it has one meaning. -/
theorem resolve_of_reorders_convoys :
    convoys.build = .ok convoyTypes ∧ convoysReversed.Reorders convoys ∧
      (∃ other, convoysReversed.build = .ok other ∧
        other.declarativeFor? "EscortHard" ≠ convoyTypes.declarativeFor? "EscortHard" ∧
        (other.resolve "a" "EscortHard").value = .ok (.declarative "EscortHard")) ∧
      (∃ owner identifier, (convoyTypes.resolve owner identifier).value =
        .ok (.compiled "Rescue" ⟨"Salvage", "missions.Salvage"⟩)) ∧
      ¬ ∃ owner identifier, (convoyTypes.resolve owner identifier).value =
        .ok (.compiled "EscortNight" ⟨"Night", "missions.Night"⟩) := by
  have hbuild : convoys.build = .ok convoyTypes := rfl
  have hreorders : convoysReversed.Reorders convoys :=
    ⟨List.reverse_perm _, List.reverse_perm _⟩
  obtain ⟨hagain, hmeaning, hreach⟩ := resolve_of_reorders convoys convoyTypes hbuild
  obtain ⟨other, hother, hanswers⟩ := hagain convoysReversed hreorders
  obtain ⟨-, -, hlonger⟩ := hmeaning "a" "Escort" (.declarative "Escort") rfl
  refine ⟨hbuild, hreorders, ⟨other, hother, ?_, ?_⟩, ?_, ?_⟩
  · obtain ⟨htypes, -⟩ := Draft.types_of_build hother
    rw [declarativeFor?, htypes]
    decide
  · rw [hanswers.resolve]
    exact hlonger ⟨_, rfl⟩ "a" "Hard"
  · exact (hreach _ _ (by decide)).mpr rfl
  · intro hreached
    have hshadowed : convoyTypes.isShadowed "EscortNight" = true := rfl
    rw [(hreach _ _ (by decide)).mp hreached] at hshadowed
    cases hshadowed

end ContractRules.Registry
