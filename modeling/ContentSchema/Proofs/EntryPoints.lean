import Mathlib
import ContentSchema.Proofs.FileFrames
import ContentSchema.Proofs.FirstFault
import ContentSchema.Proofs.JsonReading

/-!
# Entry points agree

A text compiled on its own, a file whose module is generated, a file that is checked
and a file that is compiled go through the same stages.  They have the same outcome:
what one of them reports as an error all do, and the module that is written is the
one that is generated.

The one difference is the path in the error of a text that follows no format, since a
text on its own comes from no file.  That error arises from reading only, so no later
stage has to be followed to know which errors differ.
-/

namespace ContentSchema

open Traversal (ok_bind map_eq_ok_iff map_eq_error_iff)

/-! ## Errors of texts -/

/-- The error of a text that does not follow the rules of its format. -/
def Error.IsMalformed (error : Error) : Prop :=
  ∃ path reason, error = .malformed path reason

namespace DocumentGrammar

variable {descriptor document : Document} {property context name : String}
variable {depth : Nat} {error : Error}

theorem TextFault.not_isMalformed
    (fault : TextFault descriptor property context error) :
    ¬ error.IsMalformed := by
  rintro ⟨path, reason, rfl⟩
  cases fault

theorem FlagFault.not_isMalformed
    (fault : FlagFault descriptor property context error) :
    ¬ error.IsMalformed := by
  rintro ⟨path, reason, rfl⟩
  cases fault

theorem HeadingFault.not_isMalformed
    (fault : HeadingFault descriptor error) :
    ¬ error.IsMalformed := by
  cases fault with
  | name fault =>
      exact fault.not_isMalformed
  | kind _ fault =>
      rintro ⟨path, reason, rfl⟩
      cases fault
  | required _ _ fault =>
      exact fault.not_isMalformed

theorem FieldFault.not_isMalformed
    (fault : FieldFault depth descriptor error) :
    ¬ error.IsMalformed := by
  induction fault with
  | heading fault =>
      exact fault.not_isMalformed
  | multiple _ _ fault =>
      exact fault.not_isMalformed
  | item _ _ _ _ _ ih =>
      exact ih
  | options | target | tooDeep | noItems =>
      rintro ⟨path, reason, same⟩
      cases same

theorem CollectionFault.not_isMalformed
    (fault : CollectionFault descriptor error) :
    ¬ error.IsMalformed := by
  cases fault with
  | name fault =>
      exact fault.not_isMalformed
  | folder _ fault =>
      exact fault.not_isMalformed
  | field _ _ _ _ fault =>
      exact fault.not_isMalformed
  | missingFields | invalidFields =>
      rintro ⟨path, reason, same⟩
      cases same

/-- The faults of a document are not about how its text is written. -/
theorem ConfigurationFault.not_isMalformed
    (fault : ConfigurationFault document error) :
    ¬ error.IsMalformed := by
  cases fault with
  | collection _ _ fault =>
      cases fault with
      | noObject =>
          rintro ⟨path, reason, same⟩
          cases same
      | inside _ fault =>
          exact fault.not_isMalformed
  | noObject | missingCollections | invalidCollections | locales =>
      rintro ⟨path, reason, same⟩
      cases same

end DocumentGrammar

namespace Validity

/-- What can be wrong with a configuration that was read without error. -/
inductive Complaint : Error → Prop
  | identifier (constant : String) :
      Complaint (.invalidIdentifier constant)
  | constant (constant : String) :
      Complaint (.duplicateConstant constant)
  | field (name context : String) :
      Complaint (.duplicateField name context)

theorem Complaint.not_isMalformed
    {error : Error}
    (complaint : Complaint error) :
    ¬ error.IsMalformed := by
  rintro ⟨path, reason, rfl⟩
  cases complaint

theorem complaint_of_checkConstants
    {taken constants : List String} {error : Error}
    (failure : checkConstants taken constants = .error error) :
    Complaint error := by
  induction constants generalizing taken with
  | nil =>
      cases failure
  | cons constant rest ih =>
      rw [checkConstants] at failure
      split at failure
      · cases failure
        exact .identifier constant
      · split at failure
        · cases failure
          exact .constant constant
        · exact ih failure

mutual

theorem complaint_of_checkRecord
    {context : String} {seen : List String} {error : Error} :
    ∀ {widgets : List Widget}, checkRecord context seen widgets = .error error →
      Complaint error
  | [], failure => by
      cases failure
  | widget :: rest, failure => by
      rw [checkRecord] at failure
      split at failure
      · cases failure
        exact .field widget.name context
      · split at failure
        · rename_i inside
          cases failure
          exact complaint_of_checkItems inside
        · exact complaint_of_checkRecord failure

theorem complaint_of_checkItems
    {error : Error} :
    ∀ {widget : Widget}, checkItems widget = .error error → Complaint error
  | .leaf _ _ _, failure => by
      cases failure
  | .list _ _ _, failure => by
      rw [checkItems] at failure
      exact complaint_of_checkRecord failure

end

theorem complaint_of_checkFields
    {collections : List Collection} {error : Error}
    (failure : checkFields collections = .error error) :
    Complaint error := by
  induction collections with
  | nil =>
      cases failure
  | cons collection rest ih =>
      rw [checkFields] at failure
      split at failure
      · rename_i inside
        cases failure
        exact complaint_of_checkRecord inside
      · exact ih failure

/-- The checks of a configuration have no other errors than these three. -/
theorem complaint_of_check
    {config : Config} {error : Error}
    (failure : check config = .error error) :
    Complaint error := by
  unfold check at failure
  split at failure
  · rename_i inside
    cases failure
    exact complaint_of_checkConstants inside
  · exact complaint_of_checkFields failure

end Validity

namespace Format

/-- A format is found by its own name. -/
theorem ofName_name (format : Format) : ofName format.name = .ok format := by
  have small : lowerCase format.name = format.name := by
    apply String.toList_injective
    cases format <;> simp [lowerCase, name]
  unfold ofName
  rw [small]
  cases format <;> rfl

theorem error_of_ofName
    {name : String} {error : Error}
    (failure : ofName name = .error error) :
    error = .unsupportedFormat name := by
  unfold ofName at failure
  simp only at failure
  split at failure
  · cases failure
  · split at failure
    · cases failure
    · cases failure
      rfl

/-- Whether a text can be read does not depend on the path that the error would name. -/
theorem read_eq_ok_iff
    {format : Format} {path text : String} {document : Document} :
    format.read path text = .ok document ↔ format.read? text = some document := by
  unfold Format.read
  cases format.read? text <;> simp

end Format

namespace Compiler

open FileStore

/-! ## A text and the file of that text -/

/-- An error about a text on its own, and the error about the file of that text. -/
inductive Reported (path : String) : Error → Error → Prop
  | malformed (reason : String) :
      Reported path (.malformed textPath reason) (.malformed path reason)
  | same
      {error : Error}
      (wellFormed : ¬ error.IsMalformed) :
      Reported path error error

/-- Outcomes for a text on its own and for its file: only reported errors differ. -/
inductive SameOutcome {Result : Type} (path : String) :
    Except Error Result → Except Error Result → Prop
  | ok (result : Result) :
      SameOutcome path (.ok result) (.ok result)
  | error
      {error other : Error}
      (reported : Reported path error other) :
      SameOutcome path (.error error) (.error other)

namespace SameOutcome

variable {First Second : Type} {path : String}

theorem of_wellFormed
    {outcome : Except Error First}
    (wellFormed : ∀ error, outcome = .error error → ¬ error.IsMalformed) :
    SameOutcome path outcome outcome := by
  cases outcome with
  | error error =>
      exact .error (.same (wellFormed error rfl))
  | ok result =>
      exact .ok result

/-- Stages whose outcomes are the same can follow one another. -/
theorem bind
    {first other : Except Error First}
    {next further : First → Except Error Second}
    (before : SameOutcome path first other)
    (after : ∀ result, SameOutcome path (next result) (further result)) :
    SameOutcome path (first >>= next) (other >>= further) := by
  cases before with
  | ok result =>
      exact after result
  | error reported =>
      exact .error reported

end SameOutcome

/-- Reading a text has the same outcome under every path. -/
theorem sameOutcome_read
    (format : Format)
    (path text : String) :
    SameOutcome path (format.read textPath text) (format.read path text) := by
  unfold Format.read
  cases format.read? text with
  | none =>
      exact .error (.malformed _)
  | some document =>
      exact .ok document

theorem sameOutcome_configOfText
    (format : Format)
    (path : String)
    (lead : Option String)
    (text : String) :
    SameOutcome path (configOfText format textPath lead text)
      (configOfText format path lead text) := by
  refine (sameOutcome_read format path text).bind fun document => ?_
  apply SameOutcome.of_wellFormed
  intro error failure
  exact (Descriptor.config_eq_error_iff.mp failure).not_isMalformed

/-- The name of the format in which a configuration is read. -/
def formatName (options : Options) : String :=
  options.format.getD (Format.ofPath options.configPath).name

theorem formatOf_eq (options : Options) :
    formatOf options = Format.ofName (formatName options) := by
  unfold formatOf formatName
  cases options.format with
  | none =>
      exact (Format.ofName_name _).symm
  | some name =>
      rfl

/-- The stages of a generation, for a file that reads as a text. -/
theorem generate_stages
    {options : Options} {store : FileStore} {text : String}
    (reads : store.readText options.configPath = .ok text)
    (validated : options.skipValidation = false) :
    (generate options store).map Module.content = (do
      let format ← Format.ofName (formatName options)
      let config ← configOfText format options.configPath options.pathPrefix text
      Validity.check config
      return (Module.ofConfig config).content) := by
  simp only [generate, validConfigOfFile, configOfFile, validate, reads, validated, accessing,
    formatOf_eq, ok_bind, Bool.false_eq_true, if_false]
  cases Format.ofName (formatName options) with
  | error error =>
      rfl
  | ok format =>
      simp only [ok_bind]
      cases configOfText format options.configPath options.pathPrefix text with
      | error error =>
          rfl
      | ok config =>
          simp only [ok_bind]
          cases Validity.check config <;> rfl

/-- A file and its text on its own have the same module or the same error. -/
theorem sameOutcome_generate
    {options : Options} {store : FileStore} {text : String}
    (reads : store.readText options.configPath = .ok text)
    (validated : options.skipValidation = false) :
    SameOutcome options.configPath
      (compileText text (formatName options) options.pathPrefix)
      ((generate options store).map Module.content) := by
  rw [generate_stages reads validated]
  refine SameOutcome.bind (SameOutcome.of_wellFormed ?_) fun format => ?_
  · intro error failure
    rw [Format.error_of_ofName failure]
    rintro ⟨path, reason, same⟩
    cases same
  · refine (sameOutcome_configOfText format _ _ _).bind fun config => ?_
    refine SameOutcome.bind (SameOutcome.of_wellFormed ?_) fun _ => .ok _
    intro error failure
    exact (Validity.complaint_of_check failure).not_isMalformed

/-! ## What a configuration leads to -/

theorem generate_eq_ok_iff
    {options : Options} {store : FileStore} {module : Module} :
    generate options store = .ok module ↔
      ∃ config, validConfigOfFile options (store.readText options.configPath) = .ok config ∧
        Module.ofConfig config = module :=
  map_eq_ok_iff

theorem generate_eq_error_iff
    {options : Options} {store : FileStore} {error : Error} :
    generate options store = .error error ↔
      validConfigOfFile options (store.readText options.configPath) = .error error :=
  map_eq_error_iff

/-- In a store, a compilation that has a module to write writes it. -/
theorem compile_eq
    (options : Options)
    (store : FileStore) :
    compile options store =
      match validConfigOfFile options (store.readText options.configPath) with
      | .error error => (.error error, store)
      | .ok config =>
        match writeOutput options.outputPath (Module.ofConfig config).content store with
        | (.error error, after) => (.error error, after)
        | (.ok (), after) => (.ok (summarize options config), after) := by
  unfold compile compileWith
  rw [StateT.run_bind, run_readText, pure_bind]
  cases validConfigOfFile options (store.readText options.configPath) with
  | error error =>
      rfl
  | ok config =>
      rcases wrote : writeOutput options.outputPath (Module.ofConfig config).content store with
        ⟨result, after⟩
      simp only [wrote]
      unfold writeOutput at wrote
      rw [StateT.run_bind, wrote]
      cases result <;> rfl

/-- In a store, a check only looks at the contents of the file. -/
theorem check_eq
    (options : Options)
    (store : FileStore) :
    check options store =
      (validConfigOfFile options (store.readText options.configPath)).map
        (summarize options) := rfl

theorem check_eq_ok_iff
    {options : Options} {store : FileStore} {summary : Summary} :
    check options store = .ok summary ↔
      ∃ config, validConfigOfFile options (store.readText options.configPath) = .ok config ∧
        summarize options config = summary := by
  rw [check_eq]
  exact map_eq_ok_iff

/-- A check fails as the generation does. -/
theorem check_eq_error_iff
    {options : Options} {store : FileStore} {error : Error} :
    check options store = .error error ↔ generate options store = .error error := by
  rw [generate_eq_error_iff, check_eq]
  exact map_eq_error_iff

/-- What comes of a compilation: it fails before writing, or in writing, or not at all. -/
inductive Compiling (options : Options) (store : FileStore) :
    Except Error Summary → FileStore → Prop
  | rejected
      {error : Error}
      (failure : generate options store = .error error) :
      Compiling options store (.error error) store
  | unwritten
      {module : Module} {summary : Summary} {error : Error} {after : FileStore}
      (generated : generate options store = .ok module)
      (checked : check options store = .ok summary)
      (failure : writeOutput options.outputPath module.content store = (.error error, after)) :
      Compiling options store (.error error) after
  | written
      {module : Module} {summary : Summary} {after : FileStore}
      (generated : generate options store = .ok module)
      (checked : check options store = .ok summary)
      (success : writeOutput options.outputPath module.content store = (.ok (), after)) :
      Compiling options store (.ok summary) after

/-- A compilation goes one of the ways listed. -/
theorem compiling_compile
    (options : Options)
    (store : FileStore) :
    Compiling options store (compile options store).1 (compile options store).2 := by
  rw [compile_eq]
  cases valid : validConfigOfFile options (store.readText options.configPath) with
  | error error =>
      exact .rejected (generate_eq_error_iff.mpr valid)
  | ok config =>
      have generated := generate_eq_ok_iff.mpr ⟨config, valid, rfl⟩
      have checked := check_eq_ok_iff.mpr ⟨config, valid, rfl⟩
      simp only
      rcases outcome : writeOutput options.outputPath (Module.ofConfig config).content store with
        ⟨result, after⟩
      cases result with
      | error error =>
          exact .unwritten generated checked outcome
      | ok done =>
          exact .written generated checked outcome

theorem compile_of_generate_error
    {options : Options} {store : FileStore} {error : Error}
    (failure : generate options store = .error error) :
    compile options store = (.error error, store) := by
  rw [compile_eq, generate_eq_error_iff.mp failure]

/-- A compilation succeeds when the module is generated, checked and written. -/
theorem compile_eq_ok_iff
    {options : Options} {store after : FileStore} {summary : Summary} :
    compile options store = (.ok summary, after) ↔
      ∃ module, generate options store = .ok module ∧ check options store = .ok summary ∧
        writeOutput options.outputPath module.content store = (.ok (), after) := by
  constructor
  · intro success
    have outcome := compiling_compile options store
    rw [success] at outcome
    cases outcome with
    | written generated checked success =>
        exact ⟨_, generated, checked, success⟩
  · rintro ⟨module, generated, checked, success⟩
    rcases generate_eq_ok_iff.mp generated with ⟨config, valid, rfl⟩
    rcases check_eq_ok_iff.mp checked with ⟨same, again, rfl⟩
    rw [valid] at again
    cases again
    rw [compile_eq]
    simp only [valid, success]

/-- The number of fields is the sum over the collections. -/
theorem fieldCount_eq_sum (config : Config) :
    config.fieldCount =
      (config.collections.map fun collection => collection.widgets.length).sum := by
  rw [Config.fieldCount, List.sum_eq_foldl, List.foldl_map]

/-! ## Without validation -/

/-- The options of the same compilation without validation. -/
def lenient (options : Options) : Options :=
  { options with skipValidation := true }

/--
A configuration may be generated when it is loaded and passes the checks that are asked
for.
-/
theorem validConfigOfFile_eq_ok_iff
    {options : Options} {contents : Except Fault String} {config : Config} :
    validConfigOfFile options contents = .ok config ↔
      configOfFile options contents = .ok config ∧ validate options config = .ok () := by
  unfold validConfigOfFile
  cases configOfFile options contents with
  | error error =>
      simp [bind, Except.bind]
  | ok loaded =>
      simp only [ok_bind, Except.ok.injEq]
      constructor
      · intro success
        cases checked : validate options loaded with
        | error error =>
            rw [checked] at success
            cases success
        | ok done =>
            rw [checked] at success
            cases success
            exact ⟨rfl, checked⟩
      · rintro ⟨rfl, checked⟩
        rw [checked]
        rfl

/-- Without the checks every configuration that is loaded may be generated. -/
theorem validConfigOfFile_lenient
    (options : Options)
    (contents : Except Fault String) :
    validConfigOfFile (lenient options) contents = configOfFile options contents := by
  have same : configOfFile (lenient options) contents = configOfFile options contents := rfl
  unfold validConfigOfFile
  rw [same]
  cases configOfFile options contents <;> rfl

/-- A configuration that is refused was either not loaded or not valid. -/
theorem validConfigOfFile_eq_error_iff
    {options : Options} {contents : Except Fault String} {error : Error}
    (validated : options.skipValidation = false) :
    validConfigOfFile options contents = .error error ↔
      configOfFile options contents = .error error ∨
        ∃ config, configOfFile options contents = .ok config ∧
          Validity.check config = .error error := by
  unfold validConfigOfFile
  cases configOfFile options contents with
  | error other =>
      simp [bind, Except.bind]
  | ok loaded =>
      simp only [ok_bind, validate, validated, Bool.false_eq_true, if_false]
      cases checked : Validity.check loaded <;>
        simp [checked, bind, Except.bind, pure, Except.pure]

/-- What has a module with validation is the same in all respects without it. -/
theorem lenient_of_generate_ok
    {options : Options} {store : FileStore} {module : Module}
    (generated : generate options store = .ok module) :
    generate (lenient options) store = generate options store ∧
      check (lenient options) store = check options store ∧
        compile (lenient options) store = compile options store := by
  rcases generate_eq_ok_iff.mp generated with ⟨config, valid, _⟩
  have same : validConfigOfFile (lenient options) (store.readText options.configPath) =
      validConfigOfFile options (store.readText options.configPath) := by
    rw [validConfigOfFile_lenient, valid]
    exact (validConfigOfFile_eq_ok_iff.mp valid).1
  refine ⟨?_, ?_, ?_⟩
  · exact congrArg (Except.map Module.ofConfig) same
  · rw [check_eq, check_eq]
    exact congrArg (Except.map (summarize options)) same
  · have paths : (lenient options).configPath = options.configPath := rfl
    rw [compile_eq, compile_eq, paths, same]
    rfl

/-! ## Agreement -/

/--
The entry points agree for options with validation and a store in which the
configuration reads as a text.
-/
structure EntryPointsAgree (options : Options) (store : FileStore) (text : String) : Prop where
  /-- The module of the file is the module of the text on its own. -/
  content : ∀ content,
    (∃ module, generate options store = .ok module ∧ module.content = content) ↔
      compileText text (formatName options) options.pathPrefix = .ok content
  /-- An error about the text on its own is one about the file. -/
  error_of_text : ∀ error,
    compileText text (formatName options) options.pathPrefix = .error error →
      ∃ reported, generate options store = .error reported ∧
        Reported options.configPath error reported
  /-- An error about the file is one about the text on its own. -/
  error_of_file : ∀ reported, generate options store = .error reported →
    ∃ error, compileText text (formatName options) options.pathPrefix = .error error ∧
      Reported options.configPath error reported
  /-- Checking and generating have the same errors. -/
  check_error : ∀ error,
    check options store = .error error ↔ generate options store = .error error
  /-- Where there is no module to write, nothing is written. -/
  compile_rejected : ∀ error, generate options store = .error error →
    compile options store = (.error error, store)
  /-- Where there is a module, exactly that is written, unless the disk refuses it. -/
  compile_generated : ∀ module, generate options store = .ok module →
    (∃ summary after, compile options store = (.ok summary, after) ∧
      check options store = .ok summary ∧
        writeOutput options.outputPath module.content store = (.ok (), after) ∧
          Written options.outputPath module.content store after) ∨
    ∃ error after, compile options store = (.error error, after) ∧
      writeOutput options.outputPath module.content store = (.error error, after) ∧
        AccessFailure options.outputPath error
  /-- A summary counts what was loaded and names the constants that were generated. -/
  summary : ∀ summary, check options store = .ok summary →
    ∃ module config, generate options store = .ok module ∧
      loadConfig options store = .ok config ∧
        summary =
          { collections := config.collections.length
            fields := (config.collections.map fun collection => collection.widgets.length).sum
            locales := config.locales
            constants := module.constants
            outputPath := options.outputPath }
  /-- Checking and compiling give the same summary. -/
  summaries : ∀ checked compiled after, check options store = .ok checked →
    compile options store = (.ok compiled, after) → compiled = checked
  /-- What succeeds with validation has the same result without it. -/
  lenient_success :
    (∀ module, generate options store = .ok module →
      generate (lenient options) store = .ok module) ∧
    (∀ summary, check options store = .ok summary →
      check (lenient options) store = .ok summary) ∧
    ∀ summary after, compile options store = (.ok summary, after) →
      compile (lenient options) store = (.ok summary, after)
  /-- What fails with validation fails in the same way without it, or was not valid. -/
  lenient_failure : ∀ error, generate options store = .error error →
    (generate (lenient options) store = .error error ∧
      check (lenient options) store = .error error ∧
        compile (lenient options) store = (.error error, store)) ∨
    ∃ config, loadConfig options store = .ok config ∧
      Validity.check config = .error error ∧
        generate (lenient options) store = .ok (Module.ofConfig config)
  /-- A module that was valid but could not be written cannot be written without validation. -/
  lenient_unwritten : ∀ module error after, generate options store = .ok module →
    compile options store = (.error error, after) →
      compile (lenient options) store = (.error error, after)

theorem SameOutcome.content_iff
    {path : String} {outcome : Except Error String} {result : Except Error Module}
    (same : SameOutcome path outcome (result.map Module.content))
    (content : String) :
    (∃ module, result = .ok module ∧ module.content = content) ↔ outcome = .ok content := by
  cases result with
  | error error =>
      cases same
      simp
  | ok module =>
      cases same
      simp

theorem SameOutcome.exists_reported
    {path : String} {outcome : Except Error String} {result : Except Error Module}
    (same : SameOutcome path outcome (result.map Module.content))
    {error : Error}
    (failure : outcome = .error error) :
    ∃ reported, result = .error reported ∧ Reported path error reported := by
  cases result with
  | error other =>
      subst failure
      cases same with
      | error reported =>
          exact ⟨other, rfl, reported⟩
  | ok module =>
      subst failure
      cases same

theorem SameOutcome.exists_error
    {path : String} {outcome : Except Error String} {result : Except Error Module}
    (same : SameOutcome path outcome (result.map Module.content))
    {reported : Error}
    (failure : result = .error reported) :
    ∃ error, outcome = .error error ∧ Reported path error reported := by
  subst failure
  cases same with
  | error reports =>
      exact ⟨_, rfl, reports⟩

/-- A compilation with a module to write comes to what writing comes to. -/
theorem compile_of_generate_ok
    {options : Options} {store : FileStore} {module : Module}
    (generated : generate options store = .ok module) :
    (∃ summary after, compile options store = (.ok summary, after) ∧
      check options store = .ok summary ∧
        writeOutput options.outputPath module.content store = (.ok (), after) ∧
          Written options.outputPath module.content store after) ∨
    ∃ error after, compile options store = (.error error, after) ∧
      writeOutput options.outputPath module.content store = (.error error, after) ∧
        AccessFailure options.outputPath error := by
  have outcome := compiling_compile options store
  rcases compiled : compile options store with ⟨result, after⟩
  rw [compiled] at outcome
  cases outcome with
  | rejected failure =>
      rw [generated] at failure
      cases failure
  | unwritten again _ failure =>
      rw [generated] at again
      cases again
      exact .inr ⟨_, _, rfl, failure, (writeOutput_failed failure).1⟩
  | written again checked success =>
      rw [generated] at again
      cases again
      exact .inl ⟨_, _, rfl, checked, success, written_of_writeOutput success⟩

/-- The numbers and lists of a summary are those of the configuration that was loaded. -/
theorem summary_of_check
    {options : Options} {store : FileStore} {summary : Summary}
    (checked : check options store = .ok summary) :
    ∃ module config, generate options store = .ok module ∧
      loadConfig options store = .ok config ∧
        summary =
          { collections := config.collections.length
            fields := (config.collections.map fun collection => collection.widgets.length).sum
            locales := config.locales
            constants := module.constants
            outputPath := options.outputPath } := by
  rcases check_eq_ok_iff.mp checked with ⟨config, valid, rfl⟩
  refine ⟨Module.ofConfig config, config, generate_eq_ok_iff.mpr ⟨config, valid, rfl⟩,
    (validConfigOfFile_eq_ok_iff.mp valid).1, ?_⟩
  rw [← fieldCount_eq_sum]
  rfl

/-- Leaving out the checks changes no error but those of the checks. -/
theorem lenient_of_generate_error
    {options : Options} {store : FileStore} {error : Error}
    (validated : options.skipValidation = false)
    (failure : generate options store = .error error) :
    (generate (lenient options) store = .error error ∧
      check (lenient options) store = .error error ∧
        compile (lenient options) store = (.error error, store)) ∨
    ∃ config, loadConfig options store = .ok config ∧
      Validity.check config = .error error ∧
        generate (lenient options) store = .ok (Module.ofConfig config) := by
  rcases (validConfigOfFile_eq_error_iff validated).mp (generate_eq_error_iff.mp failure) with
    unloaded | ⟨config, loaded, invalid⟩
  · have lax : generate (lenient options) store = .error error := by
      rw [generate_eq_error_iff, validConfigOfFile_lenient]
      exact unloaded
    exact .inl ⟨lax, check_eq_error_iff.mpr lax, compile_of_generate_error lax⟩
  · refine .inr ⟨config, loaded, invalid, generate_eq_ok_iff.mpr ⟨config, ?_, rfl⟩⟩
    rw [validConfigOfFile_lenient]
    exact loaded

/-- All entry points agree on every file that can be read. -/
theorem entryPointsAgree
    {options : Options} {store : FileStore} {text : String}
    (reads : store.readText options.configPath = .ok text)
    (validated : options.skipValidation = false) :
    EntryPointsAgree options store text where
  content := (sameOutcome_generate reads validated).content_iff
  error_of_text := fun _ failure =>
    (sameOutcome_generate reads validated).exists_reported failure
  error_of_file := fun _ failure =>
    (sameOutcome_generate reads validated).exists_error failure
  check_error := fun _ => check_eq_error_iff
  compile_rejected := fun _ failure => compile_of_generate_error failure
  compile_generated := fun _ generated => compile_of_generate_ok generated
  summary := fun _ checked => summary_of_check checked
  summaries := by
    intro checked compiled after success written
    rcases compile_eq_ok_iff.mp written with ⟨_, _, again, _⟩
    rw [success] at again
    exact (Except.ok.inj again).symm
  lenient_success := by
    refine ⟨?_, ?_, ?_⟩
    · intro module generated
      rw [(lenient_of_generate_ok generated).1, generated]
    · intro summary checked
      rcases summary_of_check checked with ⟨module, _, generated, _⟩
      rw [(lenient_of_generate_ok generated).2.1, checked]
    · intro summary after compiled
      rcases compile_eq_ok_iff.mp compiled with ⟨module, generated, _, _⟩
      rw [(lenient_of_generate_ok generated).2.2, compiled]
  lenient_failure := fun _ failure => lenient_of_generate_error validated failure
  lenient_unwritten := by
    intro module error after generated compiled
    rw [(lenient_of_generate_ok generated).2.2, compiled]

/-! ## Texts of documents with one collection -/

open Document in
/-- What a document with one collection is written as reads as that document again. -/
theorem read_documentOf
    {name folder : String} {fields : List Document} {room : Nat}
    (legible : ∀ field ∈ fields, Legible room field)
    (inOrder : ∀ field ∈ fields, field.ordered = field)
    (fits : room + 4 ≤ Json.depthLimit) :
    Json.read (Descriptor.documentOf name folder fields).pretty =
      some (Descriptor.documentOf name folder fields) := by
  have collection : Legible (room + 2) (Descriptor.collectionOf name folder fields) := by
    apply Legible.object
    simp only [List.forall_mem_cons]
    exact ⟨.array legible, .string _, .string _, List.forall_mem_nil _⟩
  have whole : Legible (room + 4) (Descriptor.documentOf name folder fields) :=
    .object (List.forall_mem_singleton.mpr (.array (List.forall_mem_singleton.mpr collection)))
  have placed : ¬ "folder" = "fields" ∧ ¬ "folder" < "fields" := by decide
  have named : (¬ "name" = "fields" ∧ ¬ "name" < "fields") ∧
      ¬ "name" = "folder" ∧ ¬ "name" < "folder" := by decide
  have kept : orderedElements fields = fields := by
    rw [orderedElements_eq_map]
    exact (List.map_congr_left inOrder).trans (List.map_id fields)
  have same : (Descriptor.documentOf name folder fields).ordered =
      Descriptor.documentOf name folder fields := by
    simp only [Descriptor.documentOf, Descriptor.collectionOf, ordered, orderedMembers,
      orderedElements, ofMembers, List.foldl_cons, List.foldl_nil, insertMember, placed, named,
      if_false, kept]
  have noBlanks : Json.IsSeparating "" := List.forall_mem_nil _
  have read := (whole.mono fits).read_pretty noBlanks
  rwa [String.append_empty, same] at read

/-! ## A file on its way through all entry points -/

/-- A field for a text. -/
def titleField : Document :=
  .object [("name", .string "title"), ("widget", .string "string")]

/-- A document with one collection that has one field. -/
def postsDocument : Document :=
  Descriptor.documentOf "posts" "blog" [titleField]

/-- The configuration that the posts document is converted to. -/
def postsConfig : Config :=
  ⟨[⟨"posts", "blog", [.ofLeaf "title" true (.scalar .string)], none⟩], []⟩

/-- Compile `posts.json` into a directory that has to be made. -/
def postsOptions : Options :=
  ⟨"posts.json", "out/config.ts", none, none, false⟩

/-- A store with nothing but the text of that document. -/
def postsStore : FileStore :=
  FileStore.empty.put ["posts.json"] (.file postsDocument.pretty.toUTF8)

theorem readText_postsStore :
    postsStore.readText postsOptions.configPath = .ok postsDocument.pretty :=
  readText_eq_ok_iff.mpr (find_eq_ok_iff.mpr ⟨rfl, lookup_put_self _ _ _⟩)

theorem read_postsDocument : Json.read postsDocument.pretty = some postsDocument := by
  have field : Document.Legible 1 titleField := by
    apply Document.Legible.object
    simp only [List.forall_mem_cons]
    exact ⟨.string _, .string _, nofun⟩
  exact read_documentOf (List.forall_mem_singleton.mpr field) (List.forall_mem_singleton.mpr rfl)
    (by decide)

theorem configOfFile_of_read
    {options : Options} {format : Format} {text : String} {document : Document}
    (chosen : formatOf options = .ok format)
    (read : format.read? text = some document) :
    configOfFile options (.ok text) = Descriptor.config options.pathPrefix document := by
  simp only [configOfFile, accessing, chosen, configOfText, Format.read, read, ok_bind]

theorem validConfigOfFile_posts :
    validConfigOfFile postsOptions (postsStore.readText postsOptions.configPath) =
      .ok postsConfig := by
  have chosen : formatOf postsOptions = .ok .json := by decide +kernel
  have title : Descriptor.widget titleField =
      .ok (.ofLeaf "title" true (.scalar .string)) :=
    Descriptor.widgetWithin_eq_ok_iff.mpr (.scalar ⟨rfl, rfl, rfl⟩)
  have converted : Descriptor.config none postsDocument = .ok postsConfig := by
    apply Descriptor.config_documentOf rfl rfl
    rw [List.mapM_cons, title]
    rfl
  rw [readText_postsStore, validConfigOfFile_eq_ok_iff,
    configOfFile_of_read chosen read_postsDocument]
  exact ⟨converted, rfl⟩

/-- The file has a module, which is the one that its text has. -/
theorem entryPointsAgree_posts :
    EntryPointsAgree postsOptions postsStore postsDocument.pretty ∧
      compileText postsDocument.pretty "json" none = .ok (Module.text postsConfig) := by
  have agree := entryPointsAgree readText_postsStore rfl
  have generated : generate postsOptions postsStore = .ok (Module.ofConfig postsConfig) :=
    generate_eq_ok_iff.mpr ⟨postsConfig, validConfigOfFile_posts, rfl⟩
  have name : formatName postsOptions = "json" := by decide +kernel
  have content := (agree.content _).mp ⟨_, generated, rfl⟩
  rw [name] at content
  exact ⟨agree, content⟩

end Compiler

end ContentSchema
