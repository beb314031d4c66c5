import ContractRules.Proofs.Command.Clauses

/-! # Steps of the argument reader — one argument after the other

    Clauses tell what arguments mean if they mean something.  What the reader does
    with an argument that it meets can be told without that: whatever the options
    are so far, it ends with information (`read_informing`), takes the next
    argument as a value (`read_valued`), or takes the argument by itself
    (`read_alone`).  Errors are part of the last two.

    So the reader never looks back.  Behind arguments that leave no value open it
    stands where it would stand without them, only with other options
    (`Complete.read_append_congr`). -/

namespace ContractRules.Command

/-- The arguments that ask for information. -/
def informing : List String := ["-h", "--help", "-V", "--version"]

/-- The options that take the next argument as their value. -/
def valued : List String := [typeOption, invalidTypeOption, compiledOption]

/-- What an argument that asks for information asks for. -/
def Request.informs (mark : String) : Request :=
  if mark = "-h" ∨ mark = "--help" then help else version

namespace Options

/-- The options after an argument that is taken by itself. -/
def takeAlone (options : Options) (argument : String) : Except UsageError Options :=
  if argument = "--color" then .ok { options with color := true }
  else if argument = "--no-color" then .ok { options with color := false }
  else if argument = "--save" then .ok { options with showSaved := true }
  else options.takeOther argument

/-- The options after an option and the value behind it. -/
def takeValued (options : Options) (option value : String) : Except UsageError Options :=
  if option = typeOption then options.addType true value
  else if option = invalidTypeOption then options.addType false value
  else .ok (options.addCompiled value)

/-- A request for help or the version ends the reading. -/
theorem read_informing {mark : String} (h : mark ∈ informing) (options : Options)
    (rest : List String) : options.read (mark :: rest) = .ok (.informs mark) := by
  simp only [informing, List.mem_cons, List.not_mem_nil, or_false] at h
  rcases h with rfl | rfl | rfl | rfl <;> rw [read.eq_def] <;> rfl

/-- An option that takes a value takes the next argument and goes on behind it. -/
theorem read_valued {option : String} (h : option ∈ valued) (options : Options)
    (value : String) (rest : List String) :
    options.read (option :: value :: rest) =
      (options.takeValued option value).bind fun taken => taken.read rest := by
  simp only [valued, List.mem_cons, List.not_mem_nil, or_false] at h
  rcases h with rfl | rfl | rfl
  · exact options.read_type value rest
  · exact options.read_invalidType value rest
  · rw [read.eq_def]
    rfl

/-- An option with nothing behind it has no value. -/
theorem read_missing {option : String} (h : option ∈ valued) (options : Options) :
    options.read [option] = .error (.missingValue option) := by
  simp only [valued, List.mem_cons, List.not_mem_nil, or_false] at h
  rcases h with rfl | rfl | rfl <;> rw [read.eq_def] <;> rfl

/-- Any other argument is taken by itself. -/
theorem read_alone {argument : String} (hinforming : argument ∉ informing)
    (hvalued : argument ∉ valued) (options : Options) (rest : List String) :
    options.read (argument :: rest) =
      (options.takeAlone argument).bind fun taken => taken.read rest := by
  by_cases hknown : argument ∈ known
  · -- of the arguments that are known by their whole text three are left
    have hleft : argument = "--color" ∨ argument = "--no-color" ∨ argument = "--save" := by
      simp only [informing, valued, known, List.mem_cons, List.not_mem_nil, or_false]
        at hinforming hvalued hknown
      tauto
    rcases hleft with rfl | rfl | rfl <;> rw [read.eq_def] <;> rfl
  · rw [read_of_not_known hknown, takeAlone, if_neg, if_neg, if_neg]
    · rintro rfl
      exact hknown (by decide)
    · rintro rfl
      exact hknown (by decide)
    · rintro rfl
      exact hknown (by decide)

end Options

/-- Arguments behind which the next one stands in the place of an option: every
    option among them that takes a value has it. -/
inductive Complete : List String → Prop where
  | nil : Complete []
  | alone {argument : String} {rest : List String} : argument ∉ valued →
      Complete rest → Complete (argument :: rest)
  | valued {option value : String} {rest : List String} : option ∈ valued →
      Complete rest → Complete (option :: value :: rest)

/-- Arguments that read alike read alike behind others that leave no value open. -/
theorem Complete.read_append_congr {before first second : List String}
    (h : Complete before)
    (hsame : ∀ options : Options, options.read first = options.read second)
    (options : Options) : options.read (before ++ first) = options.read (before ++ second) := by
  induction h generalizing options with
  | nil => exact hsame options
  | @alone argument rest hargument _ ih =>
      rw [List.cons_append, List.cons_append]
      by_cases hinforming : argument ∈ informing
      · rw [Options.read_informing hinforming, Options.read_informing hinforming]
      · rw [Options.read_alone hinforming hargument, Options.read_alone hinforming hargument]
        exact congrArg _ (funext ih)
  | @valued option value rest hoption _ ih =>
      rw [List.cons_append, List.cons_append, List.cons_append, List.cons_append,
        Options.read_valued hoption, Options.read_valued hoption]
      exact congrArg _ (funext ih)

end ContractRules.Command
