import ContractRules.Proofs.Command.Plain
import ContractRules.Proofs.Command.Steps

/-! # Colour — a coloured report says what a plain one says

    With colour a styled piece stands between two control sequences.  A reader that
    drops all control sequences (`withoutSequences`) is left with the text of the
    piece, as long as that text holds no sequence of its own.  The pieces of a report
    on plain input are plain, so a report in colour shows what it says without
    (`shows_renderLines`).

    Apart from that, the colour is passed through: where no argument sets it, options
    that start with another colour are read alike but for the colour
    (`Options.read_withColor`).  So a run with colour ends like the run without
    (`run_color`). -/

namespace ContractRules.Command

open Text (escape)

/-! ## Dropping control sequences -/

/-- What stands behind the control sequence that a text begins with, if it begins
    with one: the escape character, a bracket, a number and the letter that ends
    it. -/
def afterSequence? : List Char → Option (List Char)
  | first :: '[' :: digit :: rest =>
    if first = escape ∧ digit.isDigit = true then
      match rest.dropWhile Char.isDigit with
      | 'm' :: after => some after
      | _ => none
    else none
  | _ => none

theorem length_lt_of_afterSequence? {text after : List Char}
    (h : afterSequence? text = some after) : after.length < text.length := by
  rw [afterSequence?.eq_def] at h
  split at h
  · rename_i first digit rest
    split at h
    · split at h
      · rename_i found hrest
        obtain rfl : found = after := Option.some.inj h
        have hle := (List.dropWhile_suffix (l := rest) Char.isDigit).length_le
        rw [hrest, List.length_cons] at hle
        simp only [List.length_cons]
        omega
      · cases h
    · cases h
  · cases h

/-- A text without its control sequences. -/
def dropSequences : List Char → List Char
  | [] => []
  | c :: rest =>
    match _h : afterSequence? (c :: rest) with
    | some after => dropSequences after
    | none => c :: dropSequences rest
termination_by text => text.length
decreasing_by
  · exact length_lt_of_afterSequence? _h
  · exact Nat.lt_succ_self _

/-- A string without its control sequences. -/
def withoutSequences (text : String) : String :=
  String.ofList (dropSequences text.toList)

theorem afterSequence?_cons_of_ne {c : Char} (h : c ≠ escape) (rest : List Char) :
    afterSequence? (c :: rest) = none := by
  rw [afterSequence?.eq_def]
  split
  · rename_i heq
    rw [← (List.cons.inj heq).1, if_neg fun hfirst => h hfirst.1]
  · rfl

/-- A number between the bracket and its letter makes a control sequence. -/
theorem afterSequence?_sequence {digits : List Char} (hne : digits ≠ [])
    (hdigits : ∀ c ∈ digits, c.isDigit = true) (rest : List Char) :
    afterSequence? (escape :: '[' :: digits ++ 'm' :: rest) = some rest := by
  cases digits with
  | nil => exact absurd rfl hne
  | cons digit digits =>
      obtain ⟨hdigit, hdigits⟩ := List.forall_mem_cons.mp hdigits
      have hrest : (digits ++ 'm' :: rest).dropWhile Char.isDigit = 'm' :: rest := by
        rw [List.dropWhile_append_of_pos hdigits]
        rfl
      rw [List.cons_append, List.cons_append, List.cons_append, afterSequence?,
        if_pos ⟨rfl, hdigit⟩, hrest]
      rfl

theorem dropSequences_cons {c : Char} (h : c ≠ escape) (rest : List Char) :
    dropSequences (c :: rest) = c :: dropSequences rest := by
  rw [dropSequences]
  split
  · rename_i hafter
    rw [afterSequence?_cons_of_ne h] at hafter
    cases hafter
  · rfl

/-- A sequence goes, and what stands behind it is looked at next. -/
theorem dropSequences_of_after {text after : List Char}
    (h : afterSequence? text = some after) : dropSequences text = dropSequences after := by
  cases text with
  | nil => cases h
  | cons c rest =>
      rw [dropSequences]
      split
      · rename_i found hfound
        rw [Option.some.inj (hfound.symm.trans h)]
      · rename_i hnone
        rw [hnone] at h
        cases h

/-- What holds no escape stays. -/
theorem dropSequences_append {front : List Char} (h : escape ∉ front)
    (rest : List Char) : dropSequences (front ++ rest) = front ++ dropSequences rest := by
  induction front with
  | nil => rfl
  | cons c front ih =>
      rw [List.mem_cons, not_or] at h
      rw [List.cons_append, dropSequences_cons (Ne.symm h.1), ih h.2, List.cons_append]

/-- The sequence of a style goes. -/
theorem dropSequences_controlSequence {code : String} (hne : code.toList ≠ [])
    (hcode : code.toList.all Char.isDigit = true) (rest : List Char) :
    dropSequences ((controlSequence code).toList ++ rest) = dropSequences rest := by
  have hsequence : (controlSequence code).toList ++ rest =
      escape :: '[' :: code.toList ++ 'm' :: rest := by
    simp [controlSequence, escape]
  rw [hsequence]
  exact dropSequences_of_after
    (afterSequence?_sequence hne (List.all_eq_true.mp hcode) rest)

/-! ## Texts in colour -/

/-- Without its control sequences a text is another one, whatever follows it. -/
def Shows (coloured bare : String) : Prop :=
  ∀ rest, dropSequences (coloured.toList ++ rest) = bare.toList ++ dropSequences rest

theorem shows_of_isPlain {text : String} (h : Text.IsPlain text) : Shows text text :=
  dropSequences_append h

theorem shows_empty : Shows "" "" := shows_of_isPlain (by decide)

/-- The sequence of a style shows nothing. -/
theorem shows_controlSequence {code : String} (hne : code.toList ≠ [])
    (hcode : code.toList.all Char.isDigit = true) : Shows (controlSequence code) "" :=
  dropSequences_controlSequence hne hcode

/-- Texts in a row show what they show alone, one after the other. -/
theorem Shows.append {coloured bare coloured' bare' : String} (h : Shows coloured bare)
    (h' : Shows coloured' bare') : Shows (coloured ++ coloured') (bare ++ bare') := by
  intro rest
  rw [String.toList_append, String.toList_append, List.append_assoc, h, h',
    List.append_assoc]

theorem shows_join {α : Type} {f g : α → String} {values : List α}
    (h : ∀ value ∈ values, Shows (f value) (g value)) :
    Shows (String.join (values.map f)) (String.join (values.map g)) := by
  induction values with
  | nil => exact shows_empty
  | cons value values ih =>
      obtain ⟨hvalue, hvalues⟩ := List.forall_mem_cons.mp h
      rw [List.map_cons, List.map_cons, String.join_cons, String.join_cons]
      exact hvalue.append (ih hvalues)

/-- What a text shows is what is left of it without its control sequences. -/
theorem Shows.withoutSequences {coloured bare : String} (h : Shows coloured bare) :
    withoutSequences coloured = bare := by
  have hdrop := h []
  rw [List.append_nil, dropSequences, List.append_nil] at hdrop
  rw [Command.withoutSequences, hdrop, String.ofList_toList]

/-- A styled piece shows its text: its style goes, and so does the end of it. -/
theorem shows_render {piece : Piece} (h : Text.IsPlain piece.text) :
    Shows (piece.render true) (piece.render false) := by
  have htext := shows_of_isPlain h
  rw [Piece.render, Piece.render]
  cases piece.style? with
  | none => exact htext
  | some style =>
      have hstyle : Shows (controlSequence style.code) "" := by
        cases style <;> exact shows_controlSequence (by decide) (by decide)
      have hend : Shows (controlSequence "0") "" :=
        shows_controlSequence (by decide) (by decide)
      have hpiece := (hstyle.append htext).append hend
      rwa [String.empty_append, String.append_empty] at hpiece

/-- **Lines in colour show what they say without.** -/
theorem shows_renderLines {lines : List Line} (h : PlainLines lines) :
    Shows (renderLines true lines) (renderLines false lines) := by
  refine shows_join fun line hline => ?_
  exact (shows_join fun piece hpiece => shows_render (h line hline piece hpiece)).append
    (shows_of_isPlain (by decide))

/-! ## Options in colour -/

/-- The options with another colour. -/
def Options.withColor (options : Options) (color : Bool) : Options :=
  { options with color }

/-- The request with another colour, if it has one. -/
def Request.withColor (color : Bool) : Request → Request
  | help => help
  | version => version
  | validate options => validate (options.withColor color)

namespace Options

variable (options : Options) (color : Bool)

/-- Registering a type leaves the colour alone. -/
theorem addType_withColor (valid : Bool) (value : String) :
    (options.withColor color).addType valid value =
      (options.addType valid value).map (·.withColor color) := by
  rw [addType, addType]
  cases readType valid value <;> rfl

theorem takeOther_withColor (argument : String) :
    (options.withColor color).takeOther argument =
      (options.takeOther argument).map (·.withColor color) := by
  rw [takeOther, takeOther]
  cases joinedValue? typeOption argument with
  | some value => exact options.addType_withColor color true value
  | none =>
      cases joinedValue? compiledOption argument with
      | some path => rfl
      | none =>
          dsimp only
          split
          · rfl
          show (if options.input?.isSome = true then _ else _) = _
          split <;> rfl

theorem takeValued_withColor (option value : String) :
    (options.withColor color).takeValued option value =
      (options.takeValued option value).map (·.withColor color) := by
  rw [takeValued, takeValued]
  split
  · exact options.addType_withColor color true value
  split
  · exact options.addType_withColor color false value
  · rfl

/-- Taken by itself an argument leaves the colour alone, unless it sets it. -/
theorem takeAlone_withColor {argument : String} (hcolor : argument ≠ "--color")
    (hnoColor : argument ≠ "--no-color") :
    (options.withColor color).takeAlone argument =
      (options.takeAlone argument).map (·.withColor color) := by
  rw [takeAlone, takeAlone, if_neg hcolor, if_neg hnoColor, if_neg hcolor, if_neg hnoColor]
  split
  · rfl
  · exact options.takeOther_withColor color argument

/-- **The colour is passed through.**  Where no argument sets it, options that start
    with another colour are read as the same request, with that colour. -/
theorem read_withColor {arguments : List String} (hcolor : "--color" ∉ arguments)
    (hnoColor : "--no-color" ∉ arguments) (options : Options) (color : Bool) :
    (options.withColor color).read arguments =
      (options.read arguments).map (·.withColor color) := by
  -- induction on the arguments, one or two at a time
  cases arguments with
  | nil => rfl
  | cons argument rest =>
      obtain ⟨hcolorFirst, hcolorRest⟩ := not_or.mp (List.mem_cons.not.mp hcolor)
      obtain ⟨hnoColorFirst, hnoColorRest⟩ := not_or.mp (List.mem_cons.not.mp hnoColor)
      by_cases hinforming : argument ∈ informing
      · rw [read_informing hinforming, read_informing hinforming]
        simp only [Request.informs]
        split <;> rfl
      by_cases hvalued : argument ∈ valued
      · cases rest with
        | nil =>
            rw [read_missing hvalued, read_missing hvalued]
            rfl
        | cons value rest =>
            rw [read_valued hvalued, read_valued hvalued, takeValued_withColor]
            cases options.takeValued argument value with
            | error fault => rfl
            | ok taken =>
                exact read_withColor (List.not_mem_of_not_mem_cons hcolorRest)
                  (List.not_mem_of_not_mem_cons hnoColorRest) taken color
      · rw [read_alone hinforming hvalued, read_alone hinforming hvalued,
          takeAlone_withColor options color (Ne.symm hcolorFirst) (Ne.symm hnoColorFirst)]
        cases options.takeAlone argument with
        | error fault => rfl
        | ok taken => exact read_withColor hcolorRest hnoColorRest taken color
termination_by arguments.length

end Options

/-- The option that asks for colour, or for none. -/
def colorOption (color : Bool) : String := if color then "--color" else "--no-color"

/-- An option in front settles the colour, whatever the output asks for by itself. -/
theorem ofArguments_colorOption {arguments : List String} (hcolor : "--color" ∉ arguments)
    (hnoColor : "--no-color" ∉ arguments) (color terminal : Bool) :
    Request.ofArguments (colorOption color :: arguments) terminal =
      (Request.ofArguments arguments false).map (·.withColor color) := by
  have hstart : (Options.start terminal).takeAlone (colorOption color) =
      .ok ((Options.start false).withColor color) := by
    cases color <;> rfl
  have halone : colorOption color ∉ informing ∧ colorOption color ∉ valued := by
    cases color <;> decide
  rw [Request.ofArguments, Options.read_alone halone.1 halone.2, hstart]
  exact Options.read_withColor hcolor hnoColor _ color

/-! ## Runs in colour -/

/-- Every text that can be read as an input is plain. -/
def Environment.IsPlain (environment : Environment) : Prop :=
  ∀ input? text, Provides environment input? text.toUTF8 → Text.IsPlain text

/-- A run in colour ends and is logged like another one, and shows what the other one
    says. -/
structure Result.Shows (coloured bare : Result) : Prop where
  exit : coloured.exit = bare.exit
  complaint : coloured.complaint = bare.complaint
  events : coloured.events = bare.events
  standardOutput : Command.Shows coloured.standardOutput bare.standardOutput

/-- Runs that show a text in colour and without differ in that text only. -/
theorem Result.shows_shown (exit : Nat) {coloured bare : String}
    (h : Command.Shows coloured bare) (events : List Event) :
    (shown exit coloured events).Shows (shown exit bare events) :=
  ⟨rfl, rfl, rfl, h⟩

/-- A run that is stopped has no colour. -/
theorem Result.shows_stopped (exit : Nat) (message : String) (events : List Event) :
    (stopped exit message events).Shows (stopped exit message events) :=
  ⟨rfl, rfl, rfl, shows_empty⟩

/-- However the log is written down, the standard error is the same. -/
theorem Result.Shows.standardError {coloured bare : Result} (h : coloured.Shows bare)
    (recorder : Recorder) :
    coloured.standardError recorder = bare.standardError recorder := by
  rw [Result.standardError, Result.standardError, h.events, h.complaint]

variable {arguments : List String} {environment : Environment} {elapsed : String}

set_option maxRecDepth 10000 in
/-- The text is long, so its characters are gone through as a list. -/
theorem isPlain_helpText : Text.IsPlain (helpText ++ "\n") := by
  rw [helpText, Text.isPlain_append, Text.isPlain_append]
  refine ⟨⟨by decide, Text.isPlain_ofList ?_⟩, by decide⟩
  decide +kernel

theorem isPlain_versionText : Text.IsPlain (versionText ++ "\n") := by decide

/-- A check in colour shows what it does without. -/
theorem shows_validate {options : Options}
    (hregistry : ∀ registry, options.types.build = .ok registry → registry.IsPlain)
    {text : String} (htext : Text.IsPlain text) (helapsed : Text.IsPlain elapsed) :
    (validate (options.withColor true) text elapsed).Shows
      (validate (options.withColor false) text elapsed) := by
  cases hbuild : options.types.build with
  | error fault =>
      -- the registry is built from the types, which the colour is no part of
      have hbuilds (color : Bool) : (options.withColor color).types.build = .error fault :=
        hbuild
      rw [validate_of_fault elapsed (hbuilds true), validate_of_fault elapsed (hbuilds false)]
      exact Result.shows_stopped 2 fault.message []
  | ok registry =>
      have hbuilds (color : Bool) : (options.withColor color).types.build = .ok registry :=
        hbuild
      cases hblocks : Block.ofText text with
      | error fault =>
          rw [validate_of_malformed elapsed (hbuilds true) hblocks,
            validate_of_malformed elapsed (hbuilds false) hblocks]
          exact Result.shows_stopped 1 fault.message _
      | ok blocks =>
          have hplain := hregistry registry hbuild
          have hload : Contents.ofText registry text =
              .ok (Contents.ofBlocks registry blocks) := by
            rw [Contents.ofText, hblocks]
            rfl
          have hcontents := Contents.isPlain_of_ofText hload hplain htext
          rw [validate_of_blocks elapsed (hbuilds true) hblocks,
            validate_of_blocks elapsed (hbuilds false) hblocks]
          exact Result.shows_shown _ (shows_renderLines
            (plainLines_reportLines hplain hcontents helapsed options.showSaved)) _

/-- Whatever plain arguments ask for, it is done in colour as it is done without. -/
theorem shows_run {request : Request}
    (h : Request.ofArguments arguments false = .ok request)
    (harguments : ∀ argument ∈ arguments, Text.IsPlain argument)
    (henvironment : environment.IsPlain) (helapsed : Text.IsPlain elapsed) :
    ((request.withColor true).run environment elapsed).Shows
      ((request.withColor false).run environment elapsed) := by
  cases request with
  | help =>
      exact Result.shows_shown 0 (shows_of_isPlain isPlain_helpText) []
  | version =>
      exact Result.shows_shown 0 (shows_of_isPlain isPlain_versionText) []
  | validate options =>
      obtain ⟨clauses, hsays, rfl⟩ := ofArguments_validate_iff.mp h
      have hregistry : ∀ registry, (optionsOf false clauses).types.build = .ok registry →
          registry.IsPlain := by
        rw [types_optionsOf]
        exact fun registry => isPlain_of_says hsays harguments
      simp only [Request.withColor, Request.run, Options.withColor]
      cases hread : readInput environment (optionsOf false clauses).input? with
      | error fault => exact Result.shows_stopped 2 fault.message []
      | ok text =>
          have htext := henvironment _ text (readInput_eq_ok_iff.mp hread).provides
          exact shows_validate hregistry htext helapsed

/-- **Colour never changes content.**  Where no argument sets the colour and all that
    a run is given is plain, the run with colour and the run without end with the same
    exit code.  They tell their log the same events, and write the same to the standard
    error, however the log is written down.  What the first one shows is, without its
    control sequences, what the second one shows. -/
theorem run_color (hcolor : "--color" ∉ arguments) (hnoColor : "--no-color" ∉ arguments)
    (harguments : ∀ argument ∈ arguments, Text.IsPlain argument)
    (henvironment : environment.IsPlain) (helapsed : Text.IsPlain elapsed)
    (terminal terminal' : Bool) :
    (run ("--color" :: arguments) environment terminal elapsed).exit =
        (run ("--no-color" :: arguments) environment terminal' elapsed).exit ∧
      (run ("--color" :: arguments) environment terminal elapsed).events =
        (run ("--no-color" :: arguments) environment terminal' elapsed).events ∧
      (∀ recorder,
        (run ("--color" :: arguments) environment terminal elapsed).standardError recorder =
          (run ("--no-color" :: arguments) environment terminal' elapsed).standardError
            recorder) ∧
      withoutSequences
          (run ("--color" :: arguments) environment terminal elapsed).standardOutput =
        (run ("--no-color" :: arguments) environment terminal' elapsed).standardOutput := by
  have hshows : (run ("--color" :: arguments) environment terminal elapsed).Shows
      (run ("--no-color" :: arguments) environment terminal' elapsed) := by
    have hon := ofArguments_colorOption hcolor hnoColor true terminal
    have hoff := ofArguments_colorOption hcolor hnoColor false terminal'
    rw [run, run, show "--color" :: arguments = colorOption true :: arguments from rfl,
      show "--no-color" :: arguments = colorOption false :: arguments from rfl, hon, hoff]
    cases hrequest : Request.ofArguments arguments false with
    | error fault => exact Result.shows_stopped 2 fault.message []
    | ok request => exact shows_run hrequest harguments henvironment helapsed
  exact ⟨hshows.exit, hshows.events, hshows.standardError,
    hshows.standardOutput.withoutSequences⟩

/-- All that can be read without files is the standard input. -/
theorem Environment.isPlain_of_standardInput {text : String} (h : Text.IsPlain text)
    (reason : String) : IsPlain ⟨text.toUTF8, fun _ => .error reason⟩ := by
  intro input? other hprovides
  have hother : other.toUTF8 = text.toUTF8 := by
    cases hprovides with
    | omitted hbytes | hyphen hbytes => exact (Except.ok.inj hbytes).symm
    | file _ hfile => cases hfile
  rw [String.toByteArray_inj.mp hother]
  exact h

/-- An input with a requirement, a parameter without a kind and a block to pass
    over. -/
def mixed : Environment where
  standardInput := "REQUIREMENT \x7b
type = CompleteContract
contractType = Rescue
\x7d
PARAMETER \x7b
\x7d
NOTE \x7b
\x7d
".toUTF8
  file _ := .error ""

/-- Arguments that register a type and ask for saved forms. -/
def saving : List String := ["--type", "Rescue", "--save"]

/-- Something of every section is shown: a type and a requirement in its saved form,
    an error and a name.  The log is not silent, and the colours can be seen. -/
theorem run_color_mixed :
    "--color" ∉ saving ∧ "--no-color" ∉ saving ∧
      (∀ argument ∈ saving, Text.IsPlain argument) ∧
      mixed.IsPlain ∧ Text.IsPlain "1.250ms" ∧
      (run ("--color" :: saving) mixed false "1.250ms").exit =
        (run ("--no-color" :: saving) mixed true "1.250ms").exit ∧
      (run ("--color" :: saving) mixed false "1.250ms").events =
        (run ("--no-color" :: saving) mixed true "1.250ms").events ∧
      (∀ recorder,
        (run ("--color" :: saving) mixed false "1.250ms").standardError recorder =
          (run ("--no-color" :: saving) mixed true "1.250ms").standardError recorder) ∧
      withoutSequences (run ("--color" :: saving) mixed false "1.250ms").standardOutput =
        (run ("--no-color" :: saving) mixed true "1.250ms").standardOutput ∧
      (run ("--no-color" :: saving) mixed true "1.250ms").exit = 1 ∧
      (run ("--no-color" :: saving) mixed true "1.250ms").standardError (.lines .warn) =
        "ERROR PARAMETER: missing required field 'type' owner=PARAMETER\n" ++
          "WARN skipping unknown block block=NOTE\n" ∧
      (run ("--no-color" :: saving) mixed true "1.250ms").standardOutput ≠ "" ∧
      (run ("--color" :: saving) mixed false "1.250ms").standardOutput ≠
        (run ("--no-color" :: saving) mixed true "1.250ms").standardOutput := by
  have hcolor : "--color" ∉ saving := by decide
  have hnoColor : "--no-color" ∉ saving := by decide
  have harguments : ∀ argument ∈ saving, Text.IsPlain argument := by decide
  have hmixed : mixed.IsPlain :=
    Environment.isPlain_of_standardInput (Text.isPlain_ofList (by decide)) ""
  have helapsed : Text.IsPlain "1.250ms" := by decide
  obtain ⟨hexit, hevents, hstandardError, hstandardOutput⟩ :=
    run_color hcolor hnoColor harguments hmixed helapsed false true
  exact ⟨hcolor, hnoColor, harguments, hmixed, helapsed, hexit, hevents, hstandardError,
    hstandardOutput, by decide +kernel⟩

end ContractRules.Command
