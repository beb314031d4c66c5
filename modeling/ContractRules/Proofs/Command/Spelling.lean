import ContractRules.Command.Run
import ContractRules.Proofs.Command.Steps

/-! # Spellings of an option — its value behind it, or in the same argument

    Two options can be spelt in two ways: with the value as an argument of its own,
    or in one argument with an equals sign in between.  The two ways come together
    in what the reader makes of the value (`read_joined`), so a run can not tell
    them apart (`run_joined`).

    The value of an argument is found by dropping the option and the equals sign
    from its front as often as they stand there.  A value that itself begins with
    them is therefore lost in the joined spelling, and with it the agreement
    (`exists_run_joined_ne`). -/

namespace ContractRules.Command

/-- The argument that holds a value behind an option and an equals sign. -/
def joined (option value : String) : String := option ++ "=" ++ value

/-- A value that does not begin with the option again is held as it is. -/
theorem isJoined_joined {option value : String}
    (h : ¬ option.toList ++ ['='] <+: value.toList) :
    IsJoined option (joined option value) value := by
  refine ⟨0, ?_, h⟩
  simp [joined]

/-- Every argument that begins with an option and an equals sign holds a value. -/
theorem exists_isJoined (option value : String) :
    ∃ meant, IsJoined option (joined option value) meant := by
  have hprefix : option.toList ++ ['='] <+: (joined option value).toList := by
    refine ⟨value.toList, ?_⟩
    simp [joined]
  obtain ⟨meant, hmeant⟩ := Option.ne_none_iff_exists'.mp fun hnone =>
    joinedValue?_eq_none_iff.mp hnone hprefix
  exact ⟨meant, joinedValue?_eq_some_iff.mp hmeant⟩

/-- The reader makes the same of both spellings, whatever it has read before. -/
theorem Options.read_joined {option argument value : String}
    (hoption : option ∈ [typeOption, compiledOption])
    (h : IsJoined option argument value) (rest : List String) (options : Options) :
    options.read (argument :: rest) = options.read (option :: value :: rest) := by
  rw [read_of_not_known (not_mem_known_of_isJoined hoption h)]
  rcases List.mem_cons.mp hoption with rfl | hoption
  · rw [read_type, takeOther, joinedValue?_eq_some_iff.mpr h]
  · obtain rfl : option = compiledOption := List.mem_singleton.mp hoption
    rw [takeOther_joinedCompiled h, read_valued (by decide)]
    rfl

section
variable (environment : Environment) (color : Bool) (elapsed : String)

/-- Runs whose arguments read alike are the same run. -/
theorem run_congr {first second : List String}
    (h : ∀ options : Options, options.read first = options.read second) :
    run first environment color elapsed = run second environment color elapsed := by
  rw [run, run, Request.ofArguments, Request.ofArguments, h]

/-- **Two spellings of one option.**  An argument that holds a value behind an
    option, where an option may stand, does what the option and the value do as two
    arguments.  In particular, so does the argument that is made of any option and
    any value that does not itself begin with the option and an equals sign. -/
theorem run_joined {option : String} (hoption : option ∈ [typeOption, compiledOption])
    {before : List String} (hbefore : Complete before) (value : String)
    (after : List String) :
    (¬ option.toList ++ ['='] <+: value.toList →
        run (before ++ joined option value :: after) environment color elapsed =
          run (before ++ option :: value :: after) environment color elapsed) ∧
      ∃ meant, IsJoined option (joined option value) meant ∧
        run (before ++ joined option value :: after) environment color elapsed =
          run (before ++ option :: meant :: after) environment color elapsed := by
  have hrun {meant : String} (h : IsJoined option (joined option value) meant) :
      run (before ++ joined option value :: after) environment color elapsed =
        run (before ++ option :: meant :: after) environment color elapsed :=
    run_congr environment color elapsed
      (hbefore.read_append_congr (Options.read_joined hoption h after))
  obtain ⟨meant, hmeant⟩ := exists_isJoined option value
  exact ⟨fun h => hrun (isJoined_joined h), meant, hmeant, hrun hmeant⟩

end

/-- The input of a run that has nothing to load. -/
def idle : Environment := ⟨"A \x7b\n\x7d\n".toUTF8, fun _ => .error ""⟩

/-- A value that looks like an option is a value all the same, also in front of
    arguments that are wrong. -/
theorem run_joined_hyphens :
    compiledOption ∈ [typeOption, compiledOption] ∧
      Complete ["--save", "--type", "--compiled"] ∧
      ¬ compiledOption.toList ++ ['='] <+: "--type=A".toList ∧
      run ["--save", "--type", "--compiled", "--compiled=--type=A", "--wrong"]
          idle true "" =
        run ["--save", "--type", "--compiled", "--compiled", "--type=A", "--wrong"]
          idle true "" := by
  have hoption : compiledOption ∈ [typeOption, compiledOption] := by decide
  have hbefore : Complete ["--save", "--type", "--compiled"] :=
    .alone (by decide) (.valued (by decide) .nil)
  have hvalue : ¬ compiledOption.toList ++ ['='] <+: "--type=A".toList := by decide
  exact ⟨hoption, hbefore, hvalue,
    (run_joined idle true "" hoption hbefore "--type=A" ["--wrong"]).1 hvalue⟩

/-- A value that begins with its option is taken as it is when it stands alone.
    Joined to the option it is dropped, and an empty value is left. -/
theorem exists_run_joined_ne :
    (run ["--type", "--type="] idle false "").exit = 0 ∧
      run [joined "--type" "--type="] idle false "" =
        .stopped 2 (UsageError.badType "").message := by
  have hjoined : IsJoined typeOption (joined "--type" "--type=") "" :=
    ⟨1, by decide, by decide⟩
  refine ⟨by decide +kernel, ?_⟩
  rw [run_congr idle false "" (Options.read_joined (by decide) hjoined [])]
  decide +kernel

end ContractRules.Command
