import Mathlib
import ContentSchema.Proofs.CommandRuns
import ContentSchema.Proofs.DeclaredConstants
import ContentSchema.Proofs.Sessions

/-!
# What a run reports

A run that compiles says where it wrote the module, how many collections and which locales
there are, and what the module exports.  All of this comes from the configuration whose
module it wrote, so the lines of the report can be compared with those of the file.

The export is written out twice, by the module and by the report.  The report always puts a
blank on each side of the constants, but the module has no blank between its braces when
there is no constant.  So the line of the report, with a semicolon behind it, is the
statement of the module exactly when there is a collection.
-/

namespace ContentSchema

open Text (ofLines)
open Traversal (bind_eq_ok_iff)

namespace Config

theorem length_constants (config : Config) :
    config.constants.length = config.collections.length * max 1 config.locales.length := by
  rw [constants, List.length_map, length_declarations]

/-- There are constants as soon as there are collections. -/
theorem constants_ne_nil_iff {config : Config} :
    config.constants ≠ [] ↔ config.collections ≠ [] := by
  have choice : 0 < max 1 config.locales.length :=
    lt_max_of_lt_left Nat.zero_lt_one
  rw [← List.length_pos_iff, ← List.length_pos_iff, length_constants]
  exact Nat.mul_pos_iff_of_pos_right choice

end Config

namespace CommandLine

open Arguments (libraryOptions libraryCall)
open Compiler FileStore

/-! ## The export, written out twice -/

/-- The export as a report shows it. -/
def shownExport (constants : List String) : String :=
  "export const collections = \x7b " ++ String.intercalate ", " constants ++ " \x7d"

/-- The two ways of writing the export agree where there is anything to export. -/
theorem shownExport_eq_iff (constants : List String) :
    shownExport constants ++ ";" = Module.exportStatement constants ↔ constants ≠ [] := by
  constructor
  · rintro same rfl
    exact absurd same (by decide)
  · intro filled
    have closing : " \x7d;" = " \x7d" ++ ";" := by decide
    have exported : constants.isEmpty ≠ true := by
      simpa using filled
    unfold shownExport Module.exportStatement
    rw [if_neg exported, closing]
    simp only [String.append_assoc]

theorem exportLine_eq (constants : List String) :
    exportLine constants = ofLines ["  " ++ shownExport constants] := by
  have opening : "  export const collections = \x7b " =
      "  " ++ "export const collections = \x7b " := by decide
  have closing : " \x7d\n" = " \x7d" ++ "\n" := by decide
  unfold exportLine shownExport
  rw [Text.ofLines_singleton, opening, closing]
  simp only [String.append_assoc]

/-! ## The lines of a report -/

/-- The line about locales is left out when there are none. -/
def localeLines (locales : List String) : List String :=
  if locales = [] then []
  else
    [ "  ◇ Found " ++ toString locales.length ++ " locale(s): "
        ++ String.intercalate ", " locales ]

/-- What a run that compiles says, apart from the export that it shows. -/
def reportLines (arguments : Arguments) (elapsed output : String) (config : Config)
    (shown : String) : List String :=
  (if arguments.skipValidation then ["  ◇ Skipping identifier and duplicate checks"] else [])
    ++ [ "  ◉ Successfully generated Astro content config at: " ++ output,
         "  ◇ Generated " ++ toString config.collections.length ++ " collection(s)" ]
    ++ localeLines config.locales
    ++ [ "  " ++ shown,
         "  ◇ Generated in " ++ elapsed ++ "ms" ]

theorem remark_eq (text : String) : remark text = ofLines ["  ◇ " ++ text] :=
  (Text.ofLines_singleton _).symm

theorem localeLine_eq (locales : List String) :
    localeLine locales = ofLines (localeLines locales) := by
  have opening : "  ◇ Found " = "  ◇ " ++ "Found " := by decide
  unfold localeLine localeLines
  simp only [List.isEmpty_iff]
  split
  · rfl
  · rw [remark_eq, opening]
    simp only [String.append_assoc]

theorem warning_eq (options : Options) :
    warning options =
      ofLines (if options.skipValidation then ["  ◇ Skipping identifier and duplicate checks"]
        else []) := by
  unfold warning
  split
  · decide
  · rfl

/-- The report of a compilation, line by line. -/
theorem report_eq (summary : Summary) (elapsed : String) :
    report false summary elapsed =
      ofLines
        ([ "  ◉ Successfully generated Astro content config at: " ++ summary.outputPath,
           "  ◇ Generated " ++ toString summary.collections ++ " collection(s)" ]
          ++ localeLines summary.locales
          ++ [ "  " ++ shownExport summary.constants,
               "  ◇ Generated in " ++ elapsed ++ "ms" ]) := by
  have counting : "  ◇ Generated " = "  ◇ " ++ "Generated " := by decide
  have timing : "  ◇ Generated in " = "  ◇ " ++ ("Generated" ++ " in ") := by decide
  rw [Text.ofLines_append, Text.ofLines_append, Text.ofLines_cons _ [_], Text.ofLines_cons _ [_],
    ← localeLine_eq, ← exportLine_eq, counting, timing]
  simp only [report, successLine, timingLine, remark_eq, Text.ofLines_singleton,
    String.append_assoc, Bool.false_eq_true, if_false]

/-! ## Runs that compile -/

variable {arguments : Arguments} {path output elapsed : String} {store after : FileStore}
variable {config : Config}

/-- A run of which all stages succeed: the module of a configuration is written. -/
structure Compiles (arguments : Arguments) (path output : String) (store after : FileStore)
    (config : Config) : Prop where
  source : arguments.config = some path
  target : arguments.output = some output
  present : store.contains path = true
  valid : validConfigOfFile (arguments.libraryOptions path) (store.readText path) = .ok config
  wrote : writeOutput output (Module.text config) store = (.ok (), after)

theorem libraryOptions_outputPath
    (target : arguments.output = some output)
    (path : String) :
    (arguments.libraryOptions path).outputPath = output := by
  change arguments.output.getD Options.default.outputPath = output
  rw [target]
  rfl

/-- Such a run reports on the configuration. -/
theorem Compiles.run_eq
    (compiling : arguments.check = false)
    (compiles : Compiles arguments path output store after config)
    (elapsed : String) :
    run arguments elapsed store =
      (⟨ofLines
          (reportLines arguments elapsed output config (shownExport config.constants)), none⟩,
        after) := by
  rcases compiles with ⟨source, target, present, valid, wrote⟩
  have named := libraryOptions_outputPath target path
  have reached : arguments.Reaches path store :=
    ⟨⟨source, .inl (Option.isSome_of_eq_some target)⟩, present⟩
  have called : arguments.libraryCall path store =
      (.ok (summarize (arguments.libraryOptions path) config), after) := by
    rw [libraryCall, compiling]
    refine compile_eq_ok_iff.mpr ⟨_, generate_eq_ok_iff.mpr ⟨config, valid, rfl⟩,
      check_eq_ok_iff.mpr ⟨config, valid, rfl⟩, ?_⟩
    rw [named]
    exact wrote
  rw [run_of_reaches reached, called, Task.outcome, compiling, warning_eq, report_eq,
    ← Text.ofLines_append, summarize, named]
  simp only [reportLines, List.append_assoc]
  rfl

/-- A run that succeeds without being a mere check has gone through all stages. -/
theorem compiles_of_success
    (compiling : arguments.check = false)
    (succeeded : (run arguments elapsed store).1.exitCode = 0) :
    ∃ path output config,
      Compiles arguments path output store (run arguments elapsed store).2 config := by
  have running := running_run arguments elapsed store
  generalize run arguments elapsed store = result at running succeeded ⊢
  cases running with
  | noConfig | noOutput | noInput | refused =>
      cases succeeded
  | @done path summary after reached called =>
      have checking : arguments.check ≠ true := by
        rw [compiling]
        exact Bool.false_ne_true
      rw [libraryCall, if_neg checking] at called
      rcases compile_eq_ok_iff.mp called with ⟨module, generated, _, wrote⟩
      rcases generate_eq_ok_iff.mp generated with ⟨config, valid, rfl⟩
      rcases reached.output with given | impossible
      · rcases Option.isSome_iff_exists.mp given with ⟨output, target⟩
        rw [libraryOptions_outputPath target path] at wrote
        exact ⟨path, output, config, reached.given, target, reached.present, valid, wrote⟩
      · exact absurd impossible checking

/-- What a run says about the file that it wrote, next to what stands in that file. -/
structure ReportsFile (arguments : Arguments) (elapsed : String) (store : FileStore)
    (path output : String) (config : Config) : Prop where
  source : arguments.config = some path
  target : arguments.output = some output
  loaded : loadConfig (arguments.libraryOptions path) store = .ok config
  /-- The file is the one at the output path, which is the path that is reported. -/
  written : Written output (Module.text config) store (run arguments elapsed store).2
  said : (run arguments elapsed store).1.output =
    ofLines (reportLines arguments elapsed output config (shownExport config.constants))
  /-- The last line of the file is the statement, behind at least one other line. -/
  ending : ∃ before, before ≠ [] ∧
    Module.text config = ofLines (before ++ [Module.exportStatement config.constants])
  /-- The report shows the statement, except for the blanks where nothing is exported. -/
  shown : shownExport config.constants ++ ";" = Module.exportStatement config.constants ↔
    config.collections ≠ []
  count : config.constants.length = config.collections.length * max 1 config.locales.length
  /-- In a module that was checked, the names of the statement can be read from its text. -/
  names : arguments.skipValidation = false →
    Module.exportedNames (Module.text config) = config.constants

/-- The names that a checked module exports are read from its text. -/
theorem exportedNames_of_valid
    {options : Options} {contents : Except Fault String}
    (checking : options.skipValidation = false)
    (valid : validConfigOfFile options contents = .ok config) :
    Module.exportedNames (Module.text config) = config.constants := by
  rcases validConfigOfFile_eq_ok_iff.mp valid with ⟨loaded, checked⟩
  rcases bind_eq_ok_iff.mp loaded with ⟨text, _, loaded⟩
  rcases bind_eq_ok_iff.mp loaded with ⟨format, _, made⟩
  rcases bind_eq_ok_iff.mp made with ⟨document, _, built⟩
  rw [validate, checking] at checked
  exact Module.exportedNames_text (Descriptor.canonical_of_config built) checked

/-- A compilation through the command line reports what it wrote. -/
theorem Compiles.reportsFile
    (compiling : arguments.check = false)
    (compiles : Compiles arguments path output store after config)
    (elapsed : String) :
    ReportsFile arguments elapsed store path output config where
  source := compiles.source
  target := compiles.target
  loaded := (validConfigOfFile_eq_ok_iff.mp compiles.valid).1
  written := by
    rw [compiles.run_eq compiling elapsed]
    exact written_of_writeOutput compiles.wrote
  said := by
    rw [compiles.run_eq compiling elapsed]
  ending := by
    refine ⟨_, ?_, Module.text_eq config⟩
    exact List.append_ne_nil_of_left_ne_nil (List.cons_ne_nil _ _) _
  shown := (shownExport_eq_iff _).trans Config.constants_ne_nil_iff
  count := config.length_constants
  names := fun validating => exportedNames_of_valid validating compiles.valid

/-- Every run that compiles and succeeds reports what it wrote. -/
theorem reportsFile_of_success
    (compiling : arguments.check = false)
    (succeeded : (run arguments elapsed store).1.exitCode = 0) :
    ∃ path output config, ReportsFile arguments elapsed store path output config := by
  rcases compiles_of_success compiling succeeded with ⟨path, output, config, compiles⟩
  exact ⟨path, output, config, compiles.reportsFile compiling elapsed⟩

/-! ## A run with a collection and a run without -/

/-- What is typed to compile `posts.json` into a directory that is not there yet. -/
def postsArguments : Arguments :=
  ⟨some "posts.json", some "out/config.ts", none, none, false, false⟩

theorem compiles_posts :
    ∃ after,
      Compiles postsArguments "posts.json" "out/config.ts" postsStore after postsConfig := by
  rcases writeOutput_posts (Module.text postsConfig) with ⟨after, wrote⟩
  exact ⟨after, rfl, rfl, rfl, validConfigOfFile_posts, wrote⟩

/-- The run on the file with one collection shows the statement that it writes. -/
theorem reportsFile_posts :
    postsArguments.check = false ∧ (run postsArguments "0" postsStore).1.exitCode = 0 ∧
    ReportsFile postsArguments "0" postsStore "posts.json" "out/config.ts" postsConfig ∧
    shownExport postsConfig.constants ++ ";" = Module.exportStatement postsConfig.constants := by
  rcases compiles_posts with ⟨after, compiles⟩
  have succeeded : (run postsArguments "0" postsStore).1.exitCode = 0 := by
    rw [compiles.run_eq rfl "0"]
    rfl
  rcases reportsFile_of_success rfl succeeded with ⟨path, output, config, reports⟩
  cases reports.source
  cases reports.target
  cases reports.loaded.symm.trans (validConfigOfFile_eq_ok_iff.mp compiles.valid).1
  exact ⟨rfl, succeeded, reports, reports.shown.mpr (List.cons_ne_nil _ _)⟩

/-- A document that lists no collections. -/
def barrenDocument : Document :=
  .object [("collections", .array [])]

/-- A store with a configuration that has no collections. -/
def barrenStore : FileStore :=
  FileStore.empty.put ["posts.json"] (.file barrenDocument.pretty.toUTF8)

/-- What is typed to compile the configuration without collections. -/
def barrenArguments : Arguments :=
  ⟨some "posts.json", some "out.ts", none, none, false, false⟩

/-- A configuration without collections is compiled as well. -/
theorem compiles_barren :
    ∃ after, Compiles barrenArguments "posts.json" "out.ts" barrenStore after Config.empty := by
  have reads : barrenStore.readText "posts.json" = .ok barrenDocument.pretty :=
    readText_eq_ok_iff.mpr (find_eq_ok_iff.mpr ⟨rfl, lookup_put_self _ _ _⟩)
  have read : Json.read barrenDocument.pretty = some barrenDocument := by
    have legible : Document.Legible Json.depthLimit barrenDocument :=
      .object (List.forall_mem_singleton.mpr (.array nofun))
    have noBlanks : Json.IsSeparating "" := List.forall_mem_nil _
    have read := legible.read_pretty noBlanks
    rwa [String.append_empty] at read
  have chosen : formatOf (barrenArguments.libraryOptions "posts.json") = .ok .json := by
    decide +kernel
  have loaded : configOfFile (barrenArguments.libraryOptions "posts.json")
      (barrenStore.readText "posts.json") = .ok Config.empty := by
    rw [reads, configOfFile_of_read chosen read]
    rfl
  have valid := validConfigOfFile_eq_ok_iff.mpr ⟨loaded, rfl⟩
  exact ⟨_, rfl, rfl, rfl, valid, writeOutput_eq_ok_iff.mpr ⟨barrenStore, rfl, rfl⟩⟩

/-- Without collections the report has two blanks where the file has none. -/
theorem reported_export_of_barren :
    barrenArguments.check = false ∧
    (run barrenArguments "0" barrenStore).1.exitCode = 0 ∧
    (run barrenArguments "0" barrenStore).2.readText "out.ts" =
      .ok (ofLines (Module.imports ++ ["", "export const collections = \x7b\x7d;"])) ∧
    (run barrenArguments "0" barrenStore).1.output =
      ofLines
        [ "  ◉ Successfully generated Astro content config at: out.ts",
          "  ◇ Generated 0 collection(s)",
          "  export const collections = \x7b  \x7d",
          "  ◇ Generated in 0ms" ] ∧
    "export const collections = \x7b  \x7d" ++ ";" ≠ "export const collections = \x7b\x7d;" := by
  rcases compiles_barren with ⟨after, compiles⟩
  have written := written_of_writeOutput compiles.wrote
  rw [compiles.run_eq rfl "0"]
  refine ⟨rfl, rfl, ?_, ?_, by decide⟩
  · rw [written.readable, Module.text_eq]
    rfl
  · exact congrArg ofLines (by decide)

end CommandLine

end ContentSchema
