import ContractRules.Command.Run
import ContractRules.Proofs.Command.Clauses
import ContractRules.Proofs.Document.Blocks
import ContractRules.Proofs.Text.Trim

/-! # Exit — how a run ends

    A run ends in one of three ways.  It succeeds if its arguments ask for help or
    the version before anything in them is wrong, or if it checks a text that is
    accepted (`Succeeds`).  It fails if it checks a text that is rejected (`Fails`).
    In every other case there is nothing that it could check: the arguments are
    wrong, their input has no text, or the types they name make no registry.

    What a run checks is told by the clauses of its arguments (`Checks`), so the
    stages of a run meet in one place: a run that checks a text comes to checking
    it (`exists_run_of_checks`), and a run that neither checks a text nor informs
    is stopped (`exists_run_eq_stopped`). -/

namespace ContractRules.Command

/-! ## What arguments say -/

/-- The arguments fall into these clauses, and nothing is wrong with them: at most
    one of the clauses names an input. -/
structure Says (arguments : List String) (clauses : List Clause) : Prop where
  areClauses : AreClauses arguments clauses
  oneInput : (inputs clauses).length ≤ 1

/-- Help or the version is asked for, and nothing in front of that is wrong. -/
def AsksForInformation (arguments : List String) : Prop :=
  ∃ front clauses mark rest, arguments = front ++ mark :: rest ∧ Says front clauses ∧
    mark ∈ ["-h", "--help", "-V", "--version"]

/-- The declarative type that a clause registers. -/
def Clause.type? : Clause → Option DeclarativeType
  | declarative type => some type
  | color _ | showSaved | compiled _ | input _ => none

/-- The path of the compiled type that a clause registers. -/
def Clause.path? : Clause → Option String
  | compiled path => some path
  | color _ | showSaved | declarative _ | input _ => none

/-- The types that clauses register, in their order. -/
def draft (clauses : List Clause) : Registry.Draft where
  declarative := clauses.filterMap Clause.type?
  compiled := (clauses.filterMap Clause.path?).map fun path =>
    ((CompiledType.ofPath path).name, .ofPath path)

/-- What clauses register comes behind what is there. -/
theorem types_foldl_add (clauses : List Clause) (options : Options) :
    (clauses.foldl Options.add options).types =
      ⟨options.types.declarative ++ (draft clauses).declarative,
        options.types.compiled ++ (draft clauses).compiled⟩ := by
  induction clauses generalizing options with
  | nil =>
      show options.types = ⟨options.types.declarative ++ [], options.types.compiled ++ []⟩
      rw [List.append_nil, List.append_nil]
  | cons clause clauses ih =>
      rw [List.foldl_cons, ih]
      cases clause with
      | color | showSaved | input => rfl
      | declarative type =>
          show Registry.Draft.mk ((options.types.declarative ++ [type]) ++ _) _ = _
          rw [List.append_assoc]
          rfl
      | compiled path =>
          show Registry.Draft.mk _ ((options.types.compiled ++ [_]) ++ _) = _
          rw [List.append_assoc]
          rfl

/-- The input is the one that a clause names. -/
theorem input?_foldl_add {clauses : List Clause} (options : Options)
    (h : options.Allows clauses) :
    (clauses.foldl Options.add options).input? =
      (options.input?.toList ++ inputs clauses).head? := by
  induction clauses generalizing options with
  | nil =>
      show options.input? = (options.input?.toList ++ []).head?
      cases options.input? <;> rfl
  | cons clause clauses ih =>
      obtain ⟨hinput, hallows⟩ := Options.allows_cons_iff.mp h
      rw [List.foldl_cons, ih _ hallows]
      cases clause with
      | color | showSaved | declarative | compiled => rfl
      | input name =>
          cases hfirst : options.input? with
          | none => rfl
          | some first => exact absurd ⟨rfl, by rw [hfirst]; rfl⟩ hinput

/-- The options of a run whose arguments say these clauses. -/
def optionsOf (color : Bool) (clauses : List Clause) : Options :=
  clauses.foldl Options.add (.start color)

theorem types_optionsOf (color : Bool) (clauses : List Clause) :
    (optionsOf color clauses).types = draft clauses :=
  types_foldl_add clauses (.start color)

/-- A run reads the input that its clauses name. -/
theorem input?_optionsOf {color : Bool} {clauses : List Clause}
    (h : (inputs clauses).length ≤ 1) :
    (optionsOf color clauses).input? = (inputs clauses).head? :=
  input?_foldl_add (.start color) h

/-- Arguments ask for a check exactly if they make sense to their end. -/
theorem ofArguments_validate_iff {arguments : List String} {color : Bool}
    {options : Options} :
    Request.ofArguments arguments color = .ok (.validate options) ↔
      ∃ clauses, Says arguments clauses ∧ options = optionsOf color clauses := by
  rw [Request.ofArguments, Options.read_eq_ok_iff]
  constructor
  · rintro ⟨front, clauses, _, rfl, hclauses, hallows, ⟨⟩⟩
    rw [List.append_nil]
    exact ⟨clauses, ⟨hclauses, hallows⟩, rfl⟩
  · rintro ⟨clauses, ⟨hclauses, hallows⟩, rfl⟩
    exact ⟨arguments, clauses, [], (List.append_nil arguments).symm, hclauses, hallows,
      .validate⟩

/-- Arguments are read as a request for help or the version exactly if they are one.
    -/
theorem ofArguments_inform_iff {arguments : List String} {color : Bool} :
    (Request.ofArguments arguments color = .ok .help ∨
        Request.ofArguments arguments color = .ok .version) ↔
      AsksForInformation arguments := by
  rw [Request.ofArguments, Options.read_eq_ok_iff, Options.read_eq_ok_iff]
  constructor
  · rintro (⟨front, clauses, _, rfl, hclauses, hallows, hends⟩ |
      ⟨front, clauses, _, rfl, hclauses, hallows, hends⟩)
    · cases hends with
      | help hmark =>
          refine ⟨front, clauses, _, _, rfl, ⟨hclauses, hallows⟩, ?_⟩
          rcases hmark with rfl | rfl <;> decide
    · cases hends with
      | version hmark =>
          refine ⟨front, clauses, _, _, rfl, ⟨hclauses, hallows⟩, ?_⟩
          rcases hmark with rfl | rfl <;> decide
  · rintro ⟨front, clauses, mark, rest, rfl, ⟨hclauses, hallows⟩, hmark⟩
    simp only [List.mem_cons, List.not_mem_nil, or_false, ← or_assoc] at hmark
    rw [or_assoc] at hmark
    rcases hmark with hmark | hmark
    · exact .inl ⟨front, clauses, _, rfl, hclauses, hallows, .help hmark⟩
    · exact .inr ⟨front, clauses, _, rfl, hclauses, hallows, .version hmark⟩

/-! ## The text of an input -/

/-- The bytes that an input stands for, which are those of the standard input if no
    file is named. -/
inductive Provides (environment : Environment) : Option String → ByteArray → Prop where
  | omitted {bytes : ByteArray} :
      environment.standardInput = .ok bytes → Provides environment none bytes
  | hyphen {bytes : ByteArray} :
      environment.standardInput = .ok bytes → Provides environment (some "-") bytes
  | file {path : String} {bytes : ByteArray} : path ≠ "-" →
      environment.file path = .ok bytes → Provides environment (some path) bytes

/-- The input can be read as this text, which is not blank. -/
structure HasText (environment : Environment) (input? : Option String) (text : String) :
    Prop where
  provides : Provides environment input? text.toUTF8
  notBlank : ∃ c ∈ text.toList, Text.isBlank c = false

/-- Without a name, and for a hyphen, the input is no file. -/
theorem inputPath?_eq_none_iff {input? : Option String} :
    inputPath? input? = none ↔ input? = none ∨ input? = some "-" := by
  cases input? with
  | none => exact iff_of_true rfl (.inl rfl)
  | some path =>
      rw [inputPath?, ite_eq_left_iff, Option.some_inj]
      exact ⟨fun h => .inr (Decidable.byContradiction fun hne => nomatch h hne),
        fun h hne => absurd (h.resolve_left nofun) hne⟩

theorem inputPath?_eq_some_iff {input? : Option String} {path : String} :
    inputPath? input? = some path ↔ input? = some path ∧ path ≠ "-" := by
  cases input? with
  | none => exact iff_of_false nofun nofun
  | some name =>
      rw [inputPath?]
      by_cases hname : name = "-"
      · rw [if_pos hname, Option.some_inj]
        exact iff_of_false nofun fun h => h.2 (h.1 ▸ hname)
      · rw [if_neg hname, Option.some_inj]
        exact ⟨fun h => ⟨h, h ▸ hname⟩, And.left⟩

/-- An input that is no file stands for the bytes of the standard input. -/
theorem provides_standardInput_iff {environment : Environment} {input? : Option String}
    (h : inputPath? input? = none) {bytes : ByteArray} :
    Provides environment input? bytes ↔ environment.standardInput = .ok bytes := by
  constructor
  · rintro (hbytes | hbytes | ⟨hpath, -⟩)
    · exact hbytes
    · exact hbytes
    · exact absurd h (by rw [inputPath?, if_neg hpath]; exact nofun)
  · intro hbytes
    rcases inputPath?_eq_none_iff.mp h with rfl | rfl
    · exact .omitted hbytes
    · exact .hyphen hbytes

theorem provides_file_iff {environment : Environment} {input? : Option String}
    {path : String} (h : inputPath? input? = some path) {bytes : ByteArray} :
    Provides environment input? bytes ↔ environment.file path = .ok bytes := by
  obtain ⟨rfl, hpath⟩ := inputPath?_eq_some_iff.mp h
  constructor
  · rintro (_ | _ | ⟨-, hfile⟩)
    · exact absurd rfl hpath
    · exact hfile
  · exact .file hpath

/-- Bytes are read as the text that they encode. -/
theorem decodeText_eq_ok_iff {bytes : ByteArray} {text : String} :
    decodeText bytes = .ok text ↔ bytes = text.toUTF8 := by
  rw [decodeText, String.fromUTF8?]
  constructor
  · intro h
    split at h
    · rename_i decoded hdecoded
      split at hdecoded
      · rw [← Except.ok.inj h, ← Option.some.inj hdecoded]
        rfl
      · cases hdecoded
    · cases h
  · rintro rfl
    rw [String.toUTF8_eq_toByteArray, dif_pos text.isValidUTF8]
    rfl

/-- A text that is read from bytes is encoded by them. -/
theorem bind_decodeText_eq_ok_iff {source : Source} {text : String} :
    source >>= decodeText = .ok text ↔ source = .ok text.toUTF8 := by
  cases source with
  | error reason => exact iff_of_false nofun nofun
  | ok bytes =>
      rw [Except.ok.injEq]
      exact decodeText_eq_ok_iff

theorem mapError_eq_ok_iff {ε ε' α : Type} {f : ε → ε'} {result : Except ε α} {a : α} :
    result.mapError f = .ok a ↔ result = .ok a := by
  cases result with
  | error reason => exact iff_of_false nofun nofun
  | ok value => rw [Except.mapError, Except.ok.injEq, Except.ok.injEq]

/-- Of the texts that can be read, those that are not blank are left. -/
theorem bind_notBlank_eq_ok_iff {source : Except InputError String} {text : String} :
    (source.bind fun text =>
        if Text.trim text.toList = [] then .error .blank else .ok text) = .ok text ↔
      source = .ok text ∧ ∃ c ∈ text.toList, Text.isBlank c = false := by
  have hblank (text : String) : (∃ c ∈ text.toList, Text.isBlank c = false) ↔
      ¬ Text.trim text.toList = [] := by
    rw [Text.trim_eq_nil_iff]
    simp only [not_forall, exists_prop, Bool.not_eq_true]
  rw [hblank]
  cases source with
  | error fault => exact iff_of_false nofun nofun
  | ok found =>
      show (if _ then _ else _) = _ ↔ _
      split
      · rename_i hnil
        exact iff_of_false nofun fun h => h.2 (Except.ok.inj h.1 ▸ hnil)
      · rename_i hne
        exact ⟨fun h => ⟨h, Except.ok.inj h ▸ hne⟩, And.left⟩

/-- An input is read as the text that it has. -/
theorem readInput_eq_ok_iff {environment : Environment} {input? : Option String}
    {text : String} :
    readInput environment input? = .ok text ↔ HasText environment input? text := by
  have htext : HasText environment input? text ↔
      Provides environment input? text.toUTF8 ∧
        ∃ c ∈ text.toList, Text.isBlank c = false :=
    ⟨fun h => ⟨h.provides, h.notBlank⟩, fun h => ⟨h.1, h.2⟩⟩
  rw [htext, readInput]
  cases hpath : inputPath? input? with
  | none =>
      refine bind_notBlank_eq_ok_iff.trans (and_congr_left' ?_)
      rw [mapError_eq_ok_iff, bind_decodeText_eq_ok_iff, provides_standardInput_iff hpath]
  | some path =>
      refine bind_notBlank_eq_ok_iff.trans (and_congr_left' ?_)
      rw [mapError_eq_ok_iff, bind_decodeText_eq_ok_iff, provides_file_iff hpath]

/-! ## The run -/

/-- The text is a document whose definitions all load. -/
def IsAccepted (registry : Registry) (text : String) : Prop :=
  ∃ blocks, Block.ofText text = .ok blocks ∧ ∀ block ∈ blocks, block.Loads registry

/-- The text is malformed, or a definition in it does not load. -/
def IsRejected (registry : Registry) (text : String) : Prop :=
  (∃ fault, Block.ofText text = .error fault) ∨
    ∃ blocks, Block.ofText text = .ok blocks ∧ ∃ block ∈ blocks, ¬ block.Loads registry

/-- The arguments make sense to their end, their input has this text, and the types
    that they name make this registry. -/
def Checks (arguments : List String) (environment : Environment) (registry : Registry)
    (text : String) : Prop :=
  ∃ clauses, Says arguments clauses ∧
    HasText environment (inputs clauses).head? text ∧
    (draft clauses).build = .ok registry

/-- The run informs, or it checks a text that is accepted. -/
def Succeeds (arguments : List String) (environment : Environment) : Prop :=
  AsksForInformation arguments ∨
    ∃ registry text, Checks arguments environment registry text ∧ IsAccepted registry text

/-- The run does not inform, and it checks a text that is rejected. -/
def Fails (arguments : List String) (environment : Environment) : Prop :=
  ¬ AsksForInformation arguments ∧
    ∃ registry text, Checks arguments environment registry text ∧ IsRejected registry text

section
variable {options : Options} {registry : Registry} {text : String} (elapsed : String)

/-- Types that make no registry stop a check. -/
theorem validate_of_fault {fault : RegistryError}
    (h : options.types.build = .error fault) :
    validate options text elapsed = .stopped 2 fault.message := by
  rw [validate, Registry.Draft.buildLogged_of_error h]

/-- A text that is no document stops a check as soon as the registry is built. -/
theorem validate_of_malformed (hbuild : options.types.build = .ok registry)
    {fault : Block.FormatError} (hfault : Block.ofText text = .error fault) :
    validate options text elapsed = .stopped 1 fault.message
      [.registryBuilt registry.declarative.length registry.compiled.length] := by
  rw [validate, Registry.Draft.buildLogged_of_ok hbuild]
  dsimp only
  rw [Contents.ofText, hfault]
  rfl

/-- A document is loaded and shown, and the log has what the load told. -/
theorem validate_of_blocks (hbuild : options.types.build = .ok registry)
    {blocks : List Block} (hblocks : Block.ofText text = .ok blocks) :
    validate options text elapsed =
      .shown (if (Contents.ofBlocks registry blocks).value.isValid then 0 else 1)
        (renderLines options.color (reportLines registry .none
          (Contents.ofBlocks registry blocks).value options.showSaved elapsed))
        (.registryBuilt registry.declarative.length registry.compiled.length ::
          (Contents.ofBlocks registry blocks).events) := by
  rw [validate, Registry.Draft.buildLogged_of_ok hbuild]
  dsimp only
  rw [Contents.ofText, hblocks]
  rfl

end

section
variable {arguments : List String} {environment : Environment}
  (color : Bool) (elapsed : String)

/-- Help and the version are always to be had. -/
theorem exit_run_of_asks (h : AsksForInformation arguments) :
    (run arguments environment color elapsed).exit = 0 := by
  rw [run]
  rcases ofArguments_inform_iff.mpr h with h | h <;> rw [h] <;> rfl

variable {registry : Registry} {text : String}

/-- A run that checks a text comes to checking the text. -/
theorem exists_run_of_checks (h : Checks arguments environment registry text) :
    ∃ options, options.types.build = .ok registry ∧
      run arguments environment color elapsed = validate options text elapsed := by
  obtain ⟨clauses, hsays, htext, hbuild⟩ := h
  refine ⟨optionsOf color clauses, by rw [types_optionsOf, hbuild], ?_⟩
  rw [run, ofArguments_validate_iff.mpr ⟨clauses, hsays, rfl⟩]
  dsimp only [Request.run]
  rw [input?_optionsOf hsays.oneInput, readInput_eq_ok_iff.mpr htext]

/-- A run that checks a malformed text stops there. -/
theorem run_of_malformed (h : Checks arguments environment registry text)
    {fault : Block.FormatError} (hfault : Block.ofText text = .error fault) :
    run arguments environment color elapsed = .stopped 1 fault.message
      [.registryBuilt registry.declarative.length registry.compiled.length] := by
  obtain ⟨options, hbuild, hrun⟩ := exists_run_of_checks color elapsed h
  rw [hrun, validate_of_malformed elapsed hbuild hfault]

/-- A run that checks a document ends as the document is valid or not. -/
theorem exit_run_of_blocks (h : Checks arguments environment registry text)
    {blocks : List Block} (hblocks : Block.ofText text = .ok blocks) :
    (run arguments environment color elapsed).exit =
      if (Contents.ofBlocks registry blocks).value.isValid then 0 else 1 := by
  obtain ⟨options, hbuild, hrun⟩ := exists_run_of_checks color elapsed h
  rw [hrun, validate_of_blocks elapsed hbuild hblocks]
  rfl

/-- A run that checks a text that is accepted ends with 0. -/
theorem exit_run_of_accepted (h : Checks arguments environment registry text)
    (haccepted : IsAccepted registry text) :
    (run arguments environment color elapsed).exit = 0 := by
  obtain ⟨blocks, hblocks, hloads⟩ := haccepted
  rw [exit_run_of_blocks color elapsed h hblocks,
    if_pos (Contents.isValid_ofBlocks_iff.mpr hloads)]

/-- A run that checks a text that is rejected ends with 1. -/
theorem exit_run_of_rejected (h : Checks arguments environment registry text)
    (hrejected : IsRejected registry text) :
    (run arguments environment color elapsed).exit = 1 := by
  obtain ⟨fault, hfault⟩ | ⟨blocks, hblocks, block, hmem, hnot⟩ := hrejected
  · rw [run_of_malformed color elapsed h hfault]
    rfl
  · rw [exit_run_of_blocks color elapsed h hblocks, if_neg]
    exact fun hvalid => hnot (Contents.isValid_ofBlocks_iff.mp hvalid block hmem)

/-- Every text is accepted or rejected. -/
theorem isAccepted_or_isRejected (registry : Registry) (text : String) :
    IsAccepted registry text ∨ IsRejected registry text := by
  cases htext : Block.ofText text with
  | error fault => exact .inr (.inl ⟨fault, htext⟩)
  | ok blocks =>
      by_cases hloads : ∀ block ∈ blocks, block.Loads registry
      · exact .inl ⟨blocks, htext, hloads⟩
      · simp only [not_forall, exists_prop] at hloads
        exact .inr (.inr ⟨blocks, htext, hloads⟩)

theorem exit_run_of_succeeds (h : Succeeds arguments environment) :
    (run arguments environment color elapsed).exit = 0 := by
  obtain hasks | ⟨registry, text, hchecks, haccepted⟩ := h
  · exact exit_run_of_asks color elapsed hasks
  · exact exit_run_of_accepted color elapsed hchecks haccepted

theorem exit_run_of_fails (h : Fails arguments environment) :
    (run arguments environment color elapsed).exit = 1 := by
  obtain ⟨-, registry, text, hchecks, hrejected⟩ := h
  exact exit_run_of_rejected color elapsed hchecks hrejected

/-- A run that neither informs nor checks a text is stopped. -/
theorem exists_run_eq_stopped (hasks : ¬ AsksForInformation arguments)
    (hchecks : ¬ ∃ registry text, Checks arguments environment registry text) :
    ∃ message, run arguments environment color elapsed = .stopped 2 message := by
  cases hrequest : Request.ofArguments arguments color with
  | error fault => exact ⟨fault.message, by rw [run, hrequest]⟩
  | ok request =>
      cases request with
      | help => exact absurd (ofArguments_inform_iff.mp (.inl hrequest)) hasks
      | version => exact absurd (ofArguments_inform_iff.mp (.inr hrequest)) hasks
      | validate options =>
          obtain ⟨clauses, hsays, rfl⟩ := ofArguments_validate_iff.mp hrequest
          rw [run, hrequest]
          dsimp only [Request.run]
          -- a text that is there and a registry that builds would make it a check
          cases hinput : readInput environment (optionsOf color clauses).input? with
          | error fault => exact ⟨_, rfl⟩
          | ok text =>
              dsimp only
              cases hbuild : (optionsOf color clauses).types.build with
              | error fault => exact ⟨_, validate_of_fault elapsed hbuild⟩
              | ok registry =>
                  rw [input?_optionsOf hsays.oneInput, readInput_eq_ok_iff] at hinput
                  rw [types_optionsOf] at hbuild
                  exact absurd ⟨registry, text, clauses, hsays, hinput, hbuild⟩ hchecks

/-- A run succeeds, fails, or is stopped before it has anything to show. -/
theorem exit_run_cases (arguments : List String) (environment : Environment) :
    (Succeeds arguments environment ∧
        (run arguments environment color elapsed).exit = 0) ∨
      (Fails arguments environment ∧
        (run arguments environment color elapsed).exit = 1) ∨
      ((run arguments environment color elapsed).exit = 2 ∧
        (run arguments environment color elapsed).standardOutput = "") := by
  by_cases hsucceeds : Succeeds arguments environment
  · exact .inl ⟨hsucceeds, exit_run_of_succeeds color elapsed hsucceeds⟩
  by_cases hfails : Fails arguments environment
  · exact .inr (.inl ⟨hfails, exit_run_of_fails color elapsed hfails⟩)
  have hasks : ¬ AsksForInformation arguments := fun hasks => hsucceeds (.inl hasks)
  have hnone : ¬ ∃ registry text, Checks arguments environment registry text := by
    rintro ⟨registry, text, hchecks⟩
    rcases isAccepted_or_isRejected registry text with haccepted | hrejected
    · exact hsucceeds (.inr ⟨registry, text, hchecks, haccepted⟩)
    · exact hfails ⟨hasks, registry, text, hchecks, hrejected⟩
  obtain ⟨message, hrun⟩ := exists_run_eq_stopped color elapsed hasks hnone
  rw [hrun]
  exact .inr (.inr ⟨rfl, rfl⟩)

/-- The other two ways to end rule each other out, so 0 means success. -/
theorem exit_run_eq_zero_iff :
    (run arguments environment color elapsed).exit = 0 ↔
      Succeeds arguments environment := by
  refine ⟨fun hexit => ?_, exit_run_of_succeeds color elapsed⟩
  obtain ⟨hsucceeds, -⟩ | ⟨-, hone⟩ | ⟨htwo, -⟩ :=
    exit_run_cases color elapsed arguments environment
  · exact hsucceeds
  · omega
  · omega

theorem exit_run_eq_one_iff :
    (run arguments environment color elapsed).exit = 1 ↔ Fails arguments environment := by
  refine ⟨fun hexit => ?_, exit_run_of_fails color elapsed⟩
  obtain ⟨-, hzero⟩ | ⟨hfails, -⟩ | ⟨htwo, -⟩ :=
    exit_run_cases color elapsed arguments environment
  · omega
  · exact hfails
  · omega

end

/-- **How a run ends.**  It ends with 0 exactly if it succeeds, with 1 exactly if it
    fails, and with 2 in every other case.  Nothing is written to the standard
    output if it ends with 2, nor if the text that it checks is malformed. -/
theorem exit_run_iff (arguments : List String) (environment : Environment) (color : Bool)
    (elapsed : String) :
    ((run arguments environment color elapsed).exit = 0 ↔
        Succeeds arguments environment) ∧
      ((run arguments environment color elapsed).exit = 1 ↔
        Fails arguments environment) ∧
      ((run arguments environment color elapsed).exit = 2 ↔
        ¬ Succeeds arguments environment ∧ ¬ Fails arguments environment) ∧
      ((run arguments environment color elapsed).exit = 2 →
        (run arguments environment color elapsed).standardOutput = "") ∧
      ∀ registry text fault, Checks arguments environment registry text →
        Block.ofText text = .error fault →
        (run arguments environment color elapsed).standardOutput = "" := by
  have hcases := exit_run_cases color elapsed arguments environment
  refine ⟨exit_run_eq_zero_iff color elapsed, exit_run_eq_one_iff color elapsed,
    ?_, ?_, ?_⟩
  · rw [← exit_run_eq_zero_iff color elapsed, ← exit_run_eq_one_iff color elapsed]
    omega
  · intro hexit
    obtain ⟨-, hzero⟩ | ⟨-, hone⟩ | ⟨-, houtput⟩ := hcases
    · omega
    · omega
    · exact houtput
  · intro registry text fault hchecks hfault
    rw [run_of_malformed color elapsed hchecks hfault]
    rfl

/-- A value is no request for help, and a heading alone is no document. -/
example (file : String → Source) (color : Bool) (elapsed : String) :
    run ["--type", "-h"] ⟨"A".toUTF8, file⟩ color elapsed =
      .stopped 1 (Block.FormatError.notOpened 1 "A").message [.registryBuilt 1 0] := by
  cbv

end ContractRules.Command
