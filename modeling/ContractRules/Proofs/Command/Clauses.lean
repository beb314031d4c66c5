import ContractRules.Command.Arguments
import ContractRules.Proofs.Text.Split

/-! # Clauses — what arguments say, one or two at a time

    Arguments fall into clauses: an option, with its value behind it if it takes
    one, or the name of an input.  The grammar of clauses (`IsClause`) says how
    each of them is spelt, without a word on how a reader goes about it.

    The reader takes one clause after the other (`read_clause`), and what it can
    not take as a clause either ends the reading or is an error (`read_cases`).
    So what it makes of arguments is a matter of how they fall into clauses
    (`read_eq_ok_iff`). -/

namespace ContractRules.Command

/-- What one or two arguments say. -/
inductive Clause where
  | color (on : Bool)
  | showSaved
  | declarative (type : DeclarativeType)
  /-- A compiled type with this path is registered. -/
  | compiled (path : String)
  /-- The input is named. -/
  | input (name : String)

/-- A value describes a declarative type: it is a name, or a name and a title with
    an equals sign between them, and the name is not blank. -/
inductive IsType (valid : Bool) : String → DeclarativeType → Prop where
  | named {name : List Char} : '=' ∉ name → Text.trim name ≠ [] →
      IsType valid (String.ofList name)
        ⟨String.ofList (Text.trim name), String.ofList (Text.trim name), valid⟩
  | titled {name title : List Char} : '=' ∉ name → Text.trim name ≠ [] →
      IsType valid (String.ofList (name ++ '=' :: title))
        ⟨String.ofList (Text.trim name), String.ofList (Text.trim title), valid⟩

/-- An argument holds a value behind an option and an equals sign, which stand in
    front of it once or more often. -/
def IsJoined (option argument value : String) : Prop :=
  ∃ count, argument.toList =
      (List.replicate (count + 1) (option.toList ++ ['='])).flatten ++ value.toList ∧
    ¬ (option.toList ++ ['=']) <+: value.toList

/-- What looks like the name of an input: it does not begin with a hyphen, or is
    one. -/
def LooksLikeInput (name : String) : Prop :=
  name = "-" ∨ name.toList.head? ≠ some '-'

/-- The arguments of a clause. -/
inductive IsClause : List String → Clause → Prop where
  | color : IsClause ["--color"] (.color true)
  | noColor : IsClause ["--no-color"] (.color false)
  | save : IsClause ["--save"] .showSaved
  | type {value : String} {type : DeclarativeType} : IsType true value type →
      IsClause ["--type", value] (.declarative type)
  | invalidType {value : String} {type : DeclarativeType} : IsType false value type →
      IsClause ["--invalid-type", value] (.declarative type)
  | compiled (path : String) : IsClause ["--compiled", path] (.compiled path)
  | joinedType {argument value : String} {type : DeclarativeType} :
      IsJoined "--type" argument value → IsType true value type →
      IsClause [argument] (.declarative type)
  | joinedCompiled {argument path : String} : IsJoined "--compiled" argument path →
      IsClause [argument] (.compiled path)
  | input {name : String} : LooksLikeInput name → IsClause [name] (.input name)

/-- Arguments that fall into clauses. -/
inductive AreClauses : List String → List Clause → Prop where
  | nil : AreClauses [] []
  | cons {front rest : List String} {clause : Clause} {clauses : List Clause} :
      IsClause front clause → AreClauses rest clauses →
      AreClauses (front ++ rest) (clause :: clauses)

/-! ## Values -/

/-- The reader makes a type of a value exactly if the value describes it. -/
theorem readType_eq_ok_iff {valid : Bool} {value : String} {type : DeclarativeType} :
    readType valid value = .ok type ↔ IsType valid value type := by
  constructor
  · intro h
    rw [readType] at h
    by_cases hmem : '=' ∈ value.toList
    · obtain ⟨name, title, hvalue, hname⟩ := List.eq_append_cons_of_mem hmem
      rw [hvalue, Text.takeWhile_append_cons hname, Text.dropWhile_append_cons hname] at h
      split at h
      · cases h
      · rename_i hne
        rw [← Except.ok.inj h, ← String.ofList_toList (s := value), hvalue]
        exact .titled hname hne
    · rw [Text.takeWhile_of_not_mem hmem, Text.dropWhile_of_not_mem hmem] at h
      split at h
      · cases h
      · rename_i hne
        rw [← Except.ok.inj h]
        have htype : IsType valid (String.ofList value.toList) _ := .named hmem hne
        rwa [String.ofList_toList] at htype
  · rintro (⟨hname, hne⟩ | ⟨hname, hne⟩)
    · rw [readType, String.toList_ofList, Text.takeWhile_of_not_mem hname,
        Text.dropWhile_of_not_mem hname]
      exact if_neg hne
    · rw [readType, String.toList_ofList, Text.takeWhile_append_cons hname,
        Text.dropWhile_append_cons hname]
      exact if_neg hne

/-- One mark more in front makes no difference. -/
theorem dropRepeated_of_prefix {mark : List Char} (hmark : mark ≠ [])
    (text : List Char) : dropRepeated mark (mark ++ text) = dropRepeated mark text := by
  rw [dropRepeated, dif_pos ⟨hmark, List.prefix_append mark text⟩, List.drop_left]

/-- Dropping a mark from the front leaves what the mark does not stand in front
    of. -/
theorem dropRepeated_eq_iff {mark : List Char} (hmark : mark ≠ [])
    {text rest : List Char} :
    dropRepeated mark text = rest ↔
      ∃ count, text = (List.replicate count mark).flatten ++ rest ∧ ¬ mark <+: rest := by
  constructor
  · fun_induction dropRepeated mark text with
    | case1 text h _ _ ih =>
        intro hrest
        obtain ⟨count, hdrop, hprefix⟩ := ih hrest
        refine ⟨count + 1, ?_, hprefix⟩
        obtain ⟨left, rfl⟩ := h.2
        rw [List.drop_left] at hdrop
        rw [hdrop, List.replicate_succ, List.flatten_cons, List.append_assoc]
    | case2 text h =>
        rintro rfl
        exact ⟨0, rfl, fun hprefix => h ⟨hmark, hprefix⟩⟩
  · rintro ⟨count, rfl, hrest⟩
    induction count with
    | zero =>
        rw [List.replicate_zero, List.flatten_nil, List.nil_append, dropRepeated,
          dif_neg fun h => hrest h.2]
    | succ count ih =>
        rw [List.replicate_succ, List.flatten_cons, List.append_assoc,
          dropRepeated_of_prefix hmark, ih]

/-- An argument that holds a value begins with the option. -/
theorem IsJoined.isPrefix {option argument value : String}
    (h : IsJoined option argument value) : option.toList ++ ['='] <+: argument.toList := by
  obtain ⟨count, hargument, -⟩ := h
  rw [hargument, List.replicate_succ, List.flatten_cons, List.append_assoc]
  exact List.prefix_append _ _

/-- The reader finds the value that an argument holds behind an option. -/
theorem joinedValue?_eq_some_iff {option argument value : String} :
    joinedValue? option argument = some value ↔ IsJoined option argument value := by
  have hmark : option.toList ++ ['='] ≠ [] := by simp
  rw [joinedValue?, IsJoined]
  constructor
  · intro h
    split at h
    · rename_i hprefix
      have hvalue : dropRepeated (option.toList ++ ['=']) argument.toList =
          value.toList := by
        rw [← Option.some.inj h, String.toList_ofList]
      obtain ⟨count, hargument, hrest⟩ := (dropRepeated_eq_iff hmark).mp hvalue
      cases count with
      | zero =>
          rw [hargument] at hprefix
          exact absurd hprefix hrest
      | succ count => exact ⟨count, hargument, hrest⟩
    · cases h
  · rintro ⟨count, hargument, hrest⟩
    have hprefix := IsJoined.isPrefix ⟨count, hargument, hrest⟩
    rw [if_pos hprefix, (dropRepeated_eq_iff hmark).mpr ⟨count + 1, hargument, hrest⟩,
      String.ofList_toList]

/-- It finds none exactly where the option and an equals sign do not come first. -/
theorem joinedValue?_eq_none_iff {option argument : String} :
    joinedValue? option argument = none ↔
      ¬ option.toList ++ ['='] <+: argument.toList := by
  rw [joinedValue?]
  exact ite_eq_right_iff.trans (forall_congr' fun _ => iff_of_false nofun id)

/-! ## One clause at a time -/

/-- The input that a clause names. -/
def Clause.input? : Clause → Option String
  | input name => some name
  | color _ | showSaved | declarative _ | compiled _ => none

/-- The inputs that clauses name. -/
def inputs (clauses : List Clause) : List String := clauses.filterMap Clause.input?

theorem IsClause.length_pos {front : List String} {clause : Clause}
    (h : IsClause front clause) : 0 < front.length := by
  cases h <;> exact Nat.succ_pos _

namespace Options

/-- The options after one more clause. -/
def add (options : Options) : Clause → Options
  | .color on => { options with color := on }
  | .showSaved => { options with showSaved := true }
  | .declarative type => { options with types := options.types.addDeclarative type }
  | .compiled path => options.addCompiled path
  | .input name => { options with input? := some name }

/-- The arguments that are known by their whole text. -/
def known : List String :=
  ["-h", "--help", "-V", "--version", "--color", "--no-color", "--save", typeOption,
    invalidTypeOption, compiledOption]

/-- An argument that is no option by its whole text is taken as another one. -/
theorem read_of_not_known {argument : String} (h : argument ∉ known)
    (options : Options) (rest : List String) :
    options.read (argument :: rest) =
      (options.takeOther argument).bind fun taken => taken.read rest := by
  simp only [known, List.mem_cons, List.not_mem_nil, or_false, not_or] at h
  obtain ⟨h1, h2, h3, h4, h5, h6, h7, h8, h9, h10⟩ := h
  rw [read.eq_def]
  dsimp only
  rw [if_neg (not_or.mpr ⟨h1, h2⟩), if_neg (not_or.mpr ⟨h3, h4⟩), if_neg h5,
    if_neg h6, if_neg h7, if_neg h8, if_neg h9, if_neg h10]
  rfl

/-- A type takes the next argument, whatever it looks like. -/
theorem read_type (options : Options) (value : String) (rest : List String) :
    options.read (typeOption :: value :: rest) =
      (options.addType true value).bind fun taken => taken.read rest :=
  rfl

theorem read_invalidType (options : Options) (value : String) (rest : List String) :
    options.read (invalidTypeOption :: value :: rest) =
      (options.addType false value).bind fun taken => taken.read rest :=
  rfl

/-- A value that describes a type registers that type. -/
theorem addType_eq_ok {valid : Bool} {value : String} {type : DeclarativeType}
    (h : IsType valid value type) (options : Options) :
    options.addType valid value = .ok (options.add (.declarative type)) := by
  rw [addType, readType_eq_ok_iff.mpr h]
  rfl

/-- No argument that is known by its whole text holds a value. -/
theorem not_mem_known_of_isJoined {option argument value : String}
    (hoption : option ∈ [typeOption, compiledOption])
    (h : IsJoined option argument value) : argument ∉ known := by
  have hknown : ∀ option ∈ [typeOption, compiledOption], ∀ other ∈ known,
      ¬ option.toList ++ ['='] <+: other.toList := by decide
  exact fun hmem => hknown option hoption argument hmem h.isPrefix

/-- A type can hold its value behind an equals sign. -/
theorem takeOther_joinedType {argument value : String} {type : DeclarativeType}
    (hjoined : IsJoined typeOption argument value) (htype : IsType true value type)
    (options : Options) :
    options.takeOther argument = .ok (options.add (.declarative type)) := by
  rw [takeOther, joinedValue?_eq_some_iff.mpr hjoined]
  exact addType_eq_ok htype options

theorem takeOther_joinedCompiled {argument path : String}
    (h : IsJoined compiledOption argument path) (options : Options) :
    options.takeOther argument = .ok (options.add (.compiled path)) := by
  have htype : ¬ typeOption.toList ++ ['='] <+: argument.toList := by
    intro hprefix
    have hle : (typeOption.toList ++ ['=']).length ≤
        (compiledOption.toList ++ ['=']).length := by decide
    have hmark := List.prefix_of_prefix_length_le hprefix h.isPrefix hle
    revert hmark
    decide
  rw [takeOther, joinedValue?_eq_none_iff.mpr htype]
  dsimp only
  rw [joinedValue?_eq_some_iff.mpr h]
  rfl

/-- What begins with two hyphens does not look like an input. -/
theorem not_looksLikeInput_of_isPrefix {argument : String}
    (h : ['-', '-'] <+: argument.toList) : ¬ LooksLikeInput argument := by
  obtain ⟨rest, hargument⟩ := h
  rintro (rfl | hhead)
  · exact absurd (congrArg List.length hargument) (by simp)
  · exact hhead (by rw [← hargument]; rfl)

theorem not_mem_known_of_looksLikeInput {name : String} (h : LooksLikeInput name) :
    name ∉ known := by
  have hknown : ∀ argument ∈ known,
      argument ≠ "-" ∧ argument.toList.head? = some '-' := by decide
  exact fun hmem => h.elim (hknown name hmem).1 fun hhead => hhead (hknown name hmem).2

/-- The first argument that looks like an input is the input, and a second one is
    wrong. -/
theorem takeOther_input {name : String} (h : LooksLikeInput name) (options : Options) :
    options.takeOther name =
      if options.input?.isSome then .error .secondInput
      else .ok (options.add (.input name)) := by
  have hmarks : ∀ option ∈ [typeOption, compiledOption],
      ['-', '-'] <+: option.toList ++ ['='] := by decide
  have hnone : ∀ option ∈ [typeOption, compiledOption],
      joinedValue? option name = none := fun option hoption =>
    joinedValue?_eq_none_iff.mpr fun hprefix =>
      not_looksLikeInput_of_isPrefix ((hmarks option hoption).trans hprefix) h
  rw [takeOther, hnone typeOption (by decide), hnone compiledOption (by decide)]
  dsimp only
  rw [if_neg]
  · rfl
  · rintro ⟨hhead, hne⟩
    exact h.elim hne fun hnot => hnot hhead

/-- The reader takes one clause after the other, but only one input. -/
theorem read_clause {front : List String} {clause : Clause} (h : IsClause front clause)
    (options : Options) (rest : List String) :
    options.read (front ++ rest) =
      if clause.input?.isSome ∧ options.input?.isSome then .error .secondInput
      else (options.add clause).read rest := by
  cases h with
  | color => rw [List.singleton_append, read.eq_def]; rfl
  | noColor => rw [List.singleton_append, read.eq_def]; rfl
  | save => rw [List.singleton_append, read.eq_def]; rfl
  | @type value type htype =>
      refine (options.read_type value rest).trans ?_
      rw [addType_eq_ok htype]
      rfl
  | @invalidType value type htype =>
      refine (options.read_invalidType value rest).trans ?_
      rw [addType_eq_ok htype]
      rfl
  | compiled path => rw [read.eq_def]; rfl
  | @joinedType argument value type hjoined htype =>
      rw [List.singleton_append,
        read_of_not_known (not_mem_known_of_isJoined (by decide) hjoined),
        takeOther_joinedType hjoined htype]
      rfl
  | @joinedCompiled argument path hjoined =>
      rw [List.singleton_append,
        read_of_not_known (not_mem_known_of_isJoined (by decide) hjoined),
        takeOther_joinedCompiled hjoined]
      rfl
  | @input name hname =>
      rw [List.singleton_append, read_of_not_known (not_mem_known_of_looksLikeInput hname),
        takeOther_input hname]
      -- only an input can be refused, and only if there is one already
      by_cases hsome : options.input?.isSome = true
      · rw [if_pos hsome, if_pos ⟨rfl, hsome⟩]
        rfl
      · rw [if_neg hsome, if_neg fun h => hsome h.2]
        rfl

/-! ## All of the arguments -/

/-- Arguments that end the reading, whatever stands behind them. -/
inductive Ends (options : Options) : List String → Request → Prop where
  | help {mark : String} {rest : List String} : mark = "-h" ∨ mark = "--help" →
      Ends options (mark :: rest) .help
  | version {mark : String} {rest : List String} : mark = "-V" ∨ mark = "--version" →
      Ends options (mark :: rest) .version
  | validate : Ends options [] (.validate options)

/-- Arguments at their end are read as what they ask for there. -/
theorem read_of_ends {options : Options} {arguments : List String} {request : Request}
    (h : Ends options arguments request) : options.read arguments = .ok request := by
  cases h with
  | help hmark => rcases hmark with rfl | rfl <;> rw [read.eq_def] <;> rfl
  | version hmark => rcases hmark with rfl | rfl <;> rw [read.eq_def] <;> rfl
  | validate => rfl

/-- A value that is needed is a type, or else it is an error. -/
theorem isType_or_addType_eq_error (options : Options) (valid : Bool) (value : String) :
    (∃ type, IsType valid value type) ∨
      ∃ fault, options.addType valid value = .error fault := by
  cases htype : readType valid value with
  | ok type => exact .inl ⟨type, readType_eq_ok_iff.mp htype⟩
  | error fault => exact .inr ⟨fault, by rw [addType, htype]; rfl⟩

/-- An argument that is not known by its whole text is a clause by itself, or an
    error. -/
theorem takeOther_cases (options : Options) (argument : String) :
    (∃ clause, IsClause [argument] clause) ∨
      ∃ fault, options.takeOther argument = .error fault := by
  cases htype : joinedValue? typeOption argument with
  | some value =>
      obtain ⟨type, hvalue⟩ | ⟨fault, hfault⟩ :=
        isType_or_addType_eq_error options true value
      · exact .inl ⟨_, .joinedType (joinedValue?_eq_some_iff.mp htype) hvalue⟩
      · exact .inr ⟨fault, by rw [takeOther, htype]; exact hfault⟩
  | none =>
      cases hcompiled : joinedValue? compiledOption argument with
      | some path =>
          exact .inl ⟨_, .joinedCompiled (joinedValue?_eq_some_iff.mp hcompiled)⟩
      | none =>
          by_cases hinput : LooksLikeInput argument
          · exact .inl ⟨_, .input hinput⟩
          · refine .inr ⟨.unknownOption argument, ?_⟩
            rw [takeOther, htype, hcompiled]
            dsimp only
            rw [if_pos]
            rw [LooksLikeInput, not_or, not_not] at hinput
            exact ⟨hinput.2, hinput.1⟩

/-- An option that needs a type is a clause with the type behind it, or an error. -/
theorem read_typed_cases {options : Options} {option : String} {valid : Bool}
    (hclause : ∀ {value type}, IsType valid value type →
      IsClause [option, value] (.declarative type))
    (hmissing : options.read [option] = .error (.missingValue option))
    (hread : ∀ value rest, options.read (option :: value :: rest) =
      (options.addType valid value).bind fun taken => taken.read rest)
    (rest : List String) :
    (∃ front clause left, option :: rest = front ++ left ∧ IsClause front clause) ∨
      ∃ fault, options.read (option :: rest) = .error fault := by
  cases rest with
  | nil => exact .inr ⟨_, hmissing⟩
  | cons value rest =>
      obtain ⟨type, htype⟩ | ⟨fault, hfault⟩ :=
        isType_or_addType_eq_error options valid value
      · exact .inl ⟨[option, value], _, rest, rfl, hclause htype⟩
      · refine .inr ⟨fault, ?_⟩
        rw [hread, hfault]
        rfl

/-- An argument that is known by its whole text ends the reading, is a clause
    together with the value behind it, or is an error. -/
theorem read_known_cases (options : Options) {argument : String} (h : argument ∈ known)
    (rest : List String) :
    (∃ request, Ends options (argument :: rest) request) ∨
      (∃ front clause left, argument :: rest = front ++ left ∧ IsClause front clause) ∨
        ∃ fault, options.read (argument :: rest) = .error fault := by
  simp only [known, List.mem_cons, List.not_mem_nil, or_false] at h
  rcases h with rfl | rfl | rfl | rfl | rfl | rfl | rfl | rfl | rfl | rfl
  · exact .inl ⟨_, .help (.inl rfl)⟩
  · exact .inl ⟨_, .help (.inr rfl)⟩
  · exact .inl ⟨_, .version (.inl rfl)⟩
  · exact .inl ⟨_, .version (.inr rfl)⟩
  · exact .inr (.inl ⟨_, _, rest, rfl, .color⟩)
  · exact .inr (.inl ⟨_, _, rest, rfl, .noColor⟩)
  · exact .inr (.inl ⟨_, _, rest, rfl, .save⟩)
  · exact .inr (read_typed_cases .type (by rw [read.eq_def]; rfl) options.read_type rest)
  · exact .inr (read_typed_cases .invalidType (by rw [read.eq_def]; rfl)
      options.read_invalidType rest)
  · cases rest with
    | nil => exact .inr (.inr ⟨.missingValue compiledOption, by rw [read.eq_def]; rfl⟩)
    | cons path rest => exact .inr (.inl ⟨_, _, rest, rfl, .compiled path⟩)

/-- Arguments end the reading, begin with a clause, or are an error. -/
theorem read_cases (options : Options) (arguments : List String) :
    (∃ request, Ends options arguments request) ∨
      (∃ front clause rest, arguments = front ++ rest ∧ IsClause front clause) ∨
        ∃ fault, options.read arguments = .error fault := by
  cases arguments with
  | nil => exact .inl ⟨_, .validate⟩
  | cons argument rest =>
      by_cases hknown : argument ∈ known
      · exact read_known_cases options hknown rest
      · obtain ⟨clause, hclause⟩ | ⟨fault, hfault⟩ := takeOther_cases options argument
        · exact .inr (.inl ⟨[argument], clause, rest, rfl, hclause⟩)
        · refine .inr (.inr ⟨fault, ?_⟩)
          rw [read_of_not_known hknown, hfault]
          rfl

/-- At most one input is named, by the options so far and the clauses to come. -/
def Allows (options : Options) (clauses : List Clause) : Prop :=
  (options.input?.toList ++ inputs clauses).length ≤ 1

theorem allows_nil (options : Options) : options.Allows [] := by
  rw [Allows, inputs, List.filterMap_nil, List.append_nil]
  exact Option.length_toList_le

/-- Clauses are allowed one after the other, as each leaves room for the rest. -/
theorem allows_cons_iff {options : Options} {clause : Clause} {clauses : List Clause} :
    options.Allows (clause :: clauses) ↔
      ¬ (clause.input?.isSome ∧ options.input?.isSome) ∧
        (options.add clause).Allows clauses := by
  cases clause with
  | input name =>
      show (options.input?.toList ++ name :: inputs clauses).length ≤ 1 ↔
        ¬ (true = true ∧ options.input?.isSome = true) ∧ (name :: inputs clauses).length ≤ 1
      cases options.input? with
      | none => simp
      | some other => simp
  | color | showSaved | declarative | compiled =>
      exact ⟨fun h => ⟨(nomatch ·.left), h⟩, And.right⟩

/-- A run over clauses that the options allow adds them one after the other. -/
theorem read_clauses {front : List String} {clauses : List Clause}
    (h : AreClauses front clauses) {options : Options} (hallows : options.Allows clauses)
    (rest : List String) :
    options.read (front ++ rest) = (clauses.foldl add options).read rest := by
  induction h generalizing options with
  | nil => rfl
  | cons hclause _ ih =>
      obtain ⟨hinput, hallows⟩ := allows_cons_iff.mp hallows
      rw [List.append_assoc, read_clause hclause, if_neg hinput, ih hallows]
      rfl

/-- What was read to the end falls into clauses, up to what ends the reading. -/
theorem exists_clauses_of_read {options : Options} {arguments : List String}
    {request : Request} (h : options.read arguments = .ok request) :
    ∃ front clauses rest, arguments = front ++ rest ∧ AreClauses front clauses ∧
      options.Allows clauses ∧ Ends (clauses.foldl add options) rest request := by
  obtain ⟨other, hends⟩ | ⟨front, clause, rest, rfl, hclause⟩ | ⟨fault, hfault⟩ :=
    options.read_cases arguments
  · obtain rfl : other = request := by
      rw [read_of_ends hends] at h
      exact Except.ok.inj h
    exact ⟨[], [], arguments, rfl, .nil, options.allows_nil, hends⟩
  · rw [read_clause hclause] at h
    split at h
    · cases h
    · rename_i hinput
      -- what is left after a clause is shorter
      have : rest.length < (front ++ rest).length := by
        rw [List.length_append]
        exact Nat.lt_add_of_pos_left hclause.length_pos
      obtain ⟨more, clauses, left, rfl, hclauses, hallows, hends⟩ :=
        exists_clauses_of_read h
      exact ⟨front ++ more, clause :: clauses, left, (List.append_assoc ..).symm,
        .cons hclause hclauses, allows_cons_iff.mpr ⟨hinput, hallows⟩, hends⟩
  · rw [hfault] at h
    cases h
termination_by arguments.length

/-- **What arguments ask for.**  They fall into clauses up to what ends the reading,
    and at most one of these names an input; in every other case they are an
    error. -/
theorem read_eq_ok_iff {options : Options} {arguments : List String} {request : Request} :
    options.read arguments = .ok request ↔
      ∃ front clauses rest, arguments = front ++ rest ∧ AreClauses front clauses ∧
        options.Allows clauses ∧ Ends (clauses.foldl add options) rest request := by
  refine ⟨exists_clauses_of_read, ?_⟩
  rintro ⟨front, clauses, rest, rfl, hclauses, hallows, hends⟩
  rw [read_clauses hclauses hallows]
  exact read_of_ends hends

/-- An option takes the next argument, whatever it looks like. -/
example (rest : List String) :
    (start false).read (compiledOption :: "-h" :: "-V" :: rest) = .ok .version := by
  cbv

end Options

end ContractRules.Command
