import Mathlib
import ContentSchema.CommandLine

/-!
# Runs of the command line

A run decides what to do from its arguments, looks whether the input is there, and calls
the library once.  It fails exactly when one of these fails, and says why: the first
failing cause is the one that is reported.  What happens to files happens in the library,
and only where it is called to compile.

So a run has five ways to go.  They are listed once, and what holds of all runs is read
off the list.
-/

namespace ContentSchema

namespace CommandLine

/-! ## What arguments ask of the library -/

namespace Arguments

/-- The options with which the library is called; an empty prefix means none. -/
def libraryOptions (arguments : Arguments) (config : String) : Options where
  configPath := config
  outputPath := arguments.output.getD Options.default.outputPath
  pathPrefix := if arguments.pathPrefix = some "" then none else arguments.pathPrefix
  format := arguments.format
  skipValidation := arguments.skipValidation

/-- The call of the library: a check leaves the store as it is. -/
def libraryCall (arguments : Arguments) (config : String) (store : FileStore) :
    Except Error Summary × FileStore :=
  if arguments.check then (Compiler.check (arguments.libraryOptions config) store, store)
  else Compiler.compile (arguments.libraryOptions config) store

/-- There is a configuration, and an output unless it is only checked. -/
structure Complete (arguments : Arguments) (config : String) : Prop where
  given : arguments.config = some config
  output : arguments.output.isSome = true ∨ arguments.check = true

/-- The run gets as far as the call of the library. -/
structure Reaches (arguments : Arguments) (config : String) (store : FileStore) : Prop
    extends Complete arguments config where
  present : store.contains config = true

theorem Complete.unique
    {arguments : Arguments} {first second : String}
    (complete : arguments.Complete first)
    (again : arguments.Complete second) :
    first = second :=
  Option.some.inj (complete.given.symm.trans again.given)

end Arguments

open Arguments

/-- The first cause for which a run fails, by its message. -/
inductive FirstCause (arguments : Arguments) (store : FileStore) : String → Prop
  | noConfig
      (absent : arguments.config = none)
      (compiling : arguments.check = false) :
      FirstCause arguments store
        ("No config path given. Run 'svestro --help' for usage or 'svestro' in a terminal "
          ++ "for interactive mode.")
  | noConfigToCheck
      (absent : arguments.config = none)
      (checking : arguments.check = true) :
      FirstCause arguments store "CONFIG is required when using --check"
  | noOutput {config}
      (given : arguments.config = some config)
      (compiling : arguments.check = false)
      (absent : arguments.output = none) :
      FirstCause arguments store "OUTPUT is required when CONFIG is given"
  | noInput {config}
      (complete : arguments.Complete config)
      (missing : store.contains config = false) :
      FirstCause arguments store ("Input file not found: " ++ config)
  | library {config error after}
      (reached : arguments.Reaches config store)
      (failed : arguments.libraryCall config store = (.error error, after)) :
      FirstCause arguments store error.message

/-! ## The ways of a run -/

/-- What comes of a run, by how far it gets. -/
inductive Running (arguments : Arguments) (elapsed : String) (store : FileStore) :
    Outcome × FileStore → Prop
  | noConfig
      (absent : arguments.config = none) :
      Running arguments elapsed store
        (⟨"", some (if arguments.check then .noConfigToCheck else .noConfig)⟩, store)
  | noOutput {config}
      (given : arguments.config = some config)
      (compiling : arguments.check = false)
      (absent : arguments.output = none) :
      Running arguments elapsed store (⟨"", some .noOutput⟩, store)
  | noInput {config}
      (complete : arguments.Complete config)
      (missing : store.contains config = false) :
      Running arguments elapsed store (⟨"", some (.inputNotFound config)⟩, store)
  | refused {config error after}
      (reached : arguments.Reaches config store)
      (failed : arguments.libraryCall config store = (.error error, after)) :
      Running arguments elapsed store
        (⟨warning (arguments.libraryOptions config), some (.compilation error)⟩, after)
  | done {config summary after}
      (reached : arguments.Reaches config store)
      (succeeded : arguments.libraryCall config store = (.ok summary, after)) :
      Running arguments elapsed store
        (⟨warning (arguments.libraryOptions config) ++ report arguments.check summary elapsed,
          none⟩, after)

variable {arguments : Arguments} {config elapsed : String} {store : FileStore}

theorem usablePrefix_eq (lead : Option String) :
    Descriptor.usablePrefix lead = if lead = some "" then none else lead := by
  cases lead with
  | none =>
      rfl
  | some text =>
      by_cases empty : text = ""
      · simp [Descriptor.usablePrefix, empty]
      · simp [Descriptor.usablePrefix, empty]

/-- Complete arguments set the task of calling the library with their options. -/
theorem task_of_complete
    (complete : arguments.Complete config) :
    arguments.task = .ok ⟨arguments.libraryOptions config, arguments.check⟩ := by
  rcases complete with ⟨given, output⟩
  unfold Arguments.task libraryOptions
  rw [given, usablePrefix_eq]
  cases checking : arguments.check with
  | true =>
      rfl
  | false =>
      rw [checking, Option.isSome_iff_exists] at output
      rcases output with ⟨path, written⟩ | impossible
      · simp only [written]
        rfl
      · cases impossible

/-- Arguments that set no task leave the store alone. -/
theorem run_of_task_error
    {failure : Failure}
    (unset : arguments.task = .error failure) :
    run arguments elapsed store = (⟨"", some failure⟩, store) := by
  unfold run runWith
  rw [unset]
  rfl

/-- In a store, a task is done where its input is there. -/
theorem run_of_task
    {task : Task}
    (set : arguments.task = .ok task) :
    run arguments elapsed store =
      if store.contains task.options.configPath then
        let (result, after) := (task.performWith FileStore.files).run store
        (task.outcome elapsed result, after)
      else (⟨"", some (.inputNotFound task.options.configPath)⟩, store) := by
  unfold run runWith Task.runWith
  simp only [set]
  rw [StateT.run_bind, FileStore.run_contains]
  cases found : store.contains task.options.configPath with
  | true =>
      rfl
  | false =>
      rfl

/-- In a store, what a task does is one call of the library. -/
theorem run_performWith
    (arguments : Arguments)
    (config : String)
    (store : FileStore) :
    (Task.performWith FileStore.files
        ⟨arguments.libraryOptions config, arguments.check⟩).run store =
      arguments.libraryCall config store := by
  unfold Task.performWith libraryCall
  split <;> rfl

theorem run_of_noConfig
    (absent : arguments.config = none) :
    run arguments elapsed store =
      (⟨"", some (if arguments.check then .noConfigToCheck else .noConfig)⟩, store) := by
  have unset : arguments.task =
      .error (if arguments.check then .noConfigToCheck else .noConfig) := by
    rw [Arguments.task, absent]
  exact run_of_task_error unset

theorem run_of_noOutput
    (given : arguments.config = some config)
    (compiling : arguments.check = false)
    (absent : arguments.output = none) :
    run arguments elapsed store = (⟨"", some .noOutput⟩, store) := by
  have unset : arguments.task = .error .noOutput := by
    simp only [Arguments.task, given, compiling, absent, Bool.false_eq_true, if_false]
  exact run_of_task_error unset

theorem run_of_noInput
    (complete : arguments.Complete config)
    (missing : store.contains config = false) :
    run arguments elapsed store = (⟨"", some (.inputNotFound config)⟩, store) := by
  have absent : store.contains (arguments.libraryOptions config).configPath ≠ true :=
    Bool.eq_false_iff.mp missing
  rw [run_of_task (task_of_complete complete)]
  exact if_neg absent

/-- A run that reaches the library has the outcome of its call. -/
theorem run_of_reaches
    (reached : arguments.Reaches config store) :
    run arguments elapsed store =
      (Task.outcome ⟨arguments.libraryOptions config, arguments.check⟩ elapsed
          (arguments.libraryCall config store).1,
        (arguments.libraryCall config store).2) := by
  have present : store.contains (arguments.libraryOptions config).configPath = true :=
    reached.present
  rw [run_of_task (task_of_complete reached.toComplete), run_performWith]
  exact if_pos present

/-- Every run goes one of the ways. -/
theorem running_run
    (arguments : Arguments)
    (elapsed : String)
    (store : FileStore) :
    Running arguments elapsed store (run arguments elapsed store) := by
  cases given : arguments.config with
  | none =>
      rw [run_of_noConfig given]
      exact .noConfig given
  | some config =>
      by_cases output : arguments.output.isSome = true ∨ arguments.check = true
      · have complete : arguments.Complete config := ⟨given, output⟩
        cases found : store.contains config with
        | false =>
            rw [run_of_noInput complete found]
            exact .noInput complete found
        | true =>
            have reached : arguments.Reaches config store := ⟨complete, found⟩
            rw [run_of_reaches reached]
            rcases called : arguments.libraryCall config store with ⟨result, after⟩
            cases result with
            | error error =>
                exact .refused reached called
            | ok summary =>
                exact .done reached called
      · rw [not_or, Bool.not_eq_true, Bool.not_eq_true, Option.isSome_eq_false_iff,
          Option.isNone_iff_eq_none] at output
        rcases output with ⟨absent, compiling⟩
        rw [run_of_noOutput given compiling absent]
        exact .noOutput given compiling absent

namespace Running

variable {result : Outcome × FileStore}

/-- A run that succeeds got to the library, whose call succeeded. -/
theorem reaches_of_success
    (running : Running arguments elapsed store result)
    (succeeded : result.1.exitCode = 0) :
    ∃ config, arguments.Reaches config store ∧
      ∃ summary, (arguments.libraryCall config store).1 = .ok summary := by
  cases running with
  | done reached called =>
      exact ⟨_, reached, _, congrArg Prod.fst called⟩
  | noConfig | noOutput | noInput | refused =>
      cases succeeded

theorem exitCode_cases
    (running : Running arguments elapsed store result) :
    result.1.exitCode = 0 ∨ result.1.exitCode = 1 := by
  cases running with
  | done =>
      exact .inl rfl
  | noConfig | noOutput | noInput | refused =>
      exact .inr rfl

/-- Only a call of the library that compiles changes the store. -/
theorem store_eq
    (running : Running arguments elapsed store result)
    (noCompilation : ∀ config, arguments.Reaches config store → arguments.check = true) :
    result.2 = store := by
  have checked : ∀ {config outcome after}, arguments.Reaches config store →
      arguments.libraryCall config store = (outcome, after) → after = store := by
    intro config outcome after reached called
    rw [libraryCall, if_pos (noCompilation config reached)] at called
    exact (Prod.mk.inj called).2.symm
  cases running with
  | noConfig | noOutput | noInput =>
      rfl
  | refused reached called =>
      exact checked reached called
  | done reached called =>
      exact checked reached called

/-- A run that fails prints its warning if it got to the library, and nothing else. -/
theorem output_of_failure
    (running : Running arguments elapsed store result)
    (failed : result.1.exitCode = 1) :
    (∃ config, arguments.Reaches config store ∧
      result.1.output = warning (arguments.libraryOptions config)) ∨
    (∀ config, ¬ arguments.Reaches config store) ∧ result.1.output = "" := by
  cases running with
  | noConfig absent =>
      refine .inr ⟨fun config reached => ?_, rfl⟩
      cases absent.symm.trans reached.given
  | noOutput given compiling absent =>
      refine .inr ⟨fun config reached => ?_, rfl⟩
      rcases reached.output with written | checking
      · rw [absent] at written
        cases written
      · rw [compiling] at checking
        cases checking
  | noInput complete missing =>
      refine .inr ⟨fun config reached => ?_, rfl⟩
      rw [complete.unique reached.toComplete, reached.present] at missing
      cases missing
  | refused reached =>
      exact .inl ⟨_, reached, rfl⟩
  | done =>
      cases failed

/-- A run that fails has a first failing cause, and says what it is. -/
theorem complaint
    (running : Running arguments elapsed store result)
    (failed : result.1.exitCode = 1) :
    ∃ message, FirstCause arguments store message ∧
      result.1.complaint = "  ◆ Error: " ++ message ++ "\n" := by
  cases running with
  | noConfig absent =>
      cases checking : arguments.check with
      | true =>
          exact ⟨_, .noConfigToCheck absent checking, rfl⟩
      | false =>
          exact ⟨_, .noConfig absent checking, rfl⟩
  | noOutput given compiling absent =>
      exact ⟨_, .noOutput given compiling absent, rfl⟩
  | noInput complete missing =>
      exact ⟨_, .noInput complete missing, rfl⟩
  | refused reached called =>
      exact ⟨_, .library reached called, rfl⟩
  | done =>
      cases failed

end Running

/-- The first cause is what a run complains about. -/
theorem FirstCause.reported
    {message : String}
    (cause : FirstCause arguments store message) :
    (run arguments elapsed store).1.exitCode = 1 ∧
      (run arguments elapsed store).1.complaint = "  ◆ Error: " ++ message ++ "\n" := by
  cases cause with
  | noConfig absent compiling =>
      rw [run_of_noConfig absent, compiling]
      exact ⟨rfl, rfl⟩
  | noConfigToCheck absent checking =>
      rw [run_of_noConfig absent, checking]
      exact ⟨rfl, rfl⟩
  | noOutput given compiling absent =>
      rw [run_of_noOutput given compiling absent]
      exact ⟨rfl, rfl⟩
  | noInput complete missing =>
      rw [run_of_noInput complete missing]
      exact ⟨rfl, rfl⟩
  | library reached failed =>
      rw [run_of_reaches reached, failed]
      exact ⟨rfl, rfl⟩

/-! ## What holds of all runs -/

/-- A run comes to nothing but what its call of the library comes to, if it gets there. -/
structure AddsNothing (arguments : Arguments) (elapsed : String) (store : FileStore) : Prop where
  /-- A run succeeds exactly when it gets to the library and the call succeeds. -/
  success : (run arguments elapsed store).1.exitCode = 0 ↔
    ∃ config, arguments.Reaches config store ∧
      ∃ summary, (arguments.libraryCall config store).1 = .ok summary
  otherwise : (run arguments elapsed store).1.exitCode ≠ 0 →
    (run arguments elapsed store).1.exitCode = 1
  /-- A run that gets to a compilation leaves the store that the library leaves. -/
  compiled : ∀ config, arguments.Reaches config store → arguments.check = false →
    (run arguments elapsed store).2 =
      (Compiler.compile (arguments.libraryOptions config) store).2
  /-- Any other run leaves the store alone, and so does every check. -/
  untouched : (∀ config, arguments.Reaches config store → arguments.check = true) →
    (run arguments elapsed store).2 = store
  /-- A run that fails says that it skips the checks, if it was going to do so. -/
  warned : (run arguments elapsed store).1.exitCode = 1 →
    ∀ config, arguments.Reaches config store → arguments.skipValidation = true →
      (run arguments elapsed store).1.output = "  ◇ Skipping identifier and duplicate checks\n"
  quiet : (run arguments elapsed store).1.exitCode = 1 →
    ((∃ config, arguments.Reaches config store) → arguments.skipValidation = false) →
      (run arguments elapsed store).1.output = ""
  /-- A run that fails names the first failing cause, of which there is one. -/
  complaint : (run arguments elapsed store).1.exitCode = 1 →
    ∃ message, FirstCause arguments store message ∧
      (run arguments elapsed store).1.complaint = "  ◆ Error: " ++ message ++ "\n"
  cause : ∀ message, FirstCause arguments store message →
    (run arguments elapsed store).1.exitCode = 1 ∧
      (run arguments elapsed store).1.complaint = "  ◆ Error: " ++ message ++ "\n"

/-- Whatever the arguments and whatever lies in the store, a run adds nothing to the library. -/
theorem addsNothing_run
    (arguments : Arguments)
    (elapsed : String)
    (store : FileStore) :
    AddsNothing arguments elapsed store where
  success := by
    constructor
    · exact (running_run arguments elapsed store).reaches_of_success
    · rintro ⟨config, reached, summary, succeeded⟩
      rw [run_of_reaches reached, succeeded]
      rfl
  otherwise := by
    intro failed
    rcases (running_run arguments elapsed store).exitCode_cases with zero | one
    · exact absurd zero failed
    · exact one
  compiled := by
    intro config reached compiling
    rw [run_of_reaches reached, libraryCall, compiling]
    rfl
  untouched := (running_run arguments elapsed store).store_eq
  warned := by
    intro failed config reached skipping
    rcases (running_run arguments elapsed store).output_of_failure failed with
      ⟨config, _, said⟩ | ⟨none, _⟩
    · have asked : (arguments.libraryOptions config).skipValidation = true := skipping
      rw [said, warning, asked]
      rfl
    · exact absurd reached (none config)
  quiet := by
    intro failed checking
    rcases (running_run arguments elapsed store).output_of_failure failed with
      ⟨config, reached, said⟩ | ⟨_, said⟩
    · have asked : (arguments.libraryOptions config).skipValidation = false :=
        checking ⟨config, reached⟩
      rw [said, warning, asked]
      rfl
    · exact said
  complaint := (running_run arguments elapsed store).complaint
  cause := fun _ cause => cause.reported

end CommandLine

end ContentSchema
