import ContentSchema.CommandLine.Arguments
import ContentSchema.Compiler
import ContentSchema.Dump

/-!
# The command line

A run first finds out what to do from its arguments, then compiles or checks, and
reports what came of it.  A failure is one message on the error channel and the
exit code 1; a misuse of the arguments has the exit code 2.
-/

namespace ContentSchema.CommandLine

/-- Why a run fails. -/
inductive Failure where
  | noConfig
  | noConfigToCheck
  | noOutput
  | inputNotFound (path : String)
  | compilation (error : Error)
  deriving DecidableEq, Repr

/-- A failure for people. -/
def Failure.message : Failure → String
  | .noConfig =>
    "No config path given. Run 'svestro --help' for usage or 'svestro' in a terminal "
      ++ "for interactive mode."
  | .noConfigToCheck => "CONFIG is required when using --check"
  | .noOutput => "OUTPUT is required when CONFIG is given"
  | .inputNotFound path => "Input file not found: " ++ path
  | .compilation error => error.message

/-- What a run has to do. -/
structure Task where
  options : Options
  checkOnly : Bool
  deriving DecidableEq, Repr

/-- The task that arguments set, if they are complete. -/
def Arguments.task (arguments : Arguments) : Except Failure Task :=
  match arguments.config with
  | none => .error (if arguments.check then .noConfigToCheck else .noConfig)
  | some config =>
    let options (output : String) : Options :=
      ⟨config, output, Descriptor.usablePrefix arguments.pathPrefix, arguments.format,
        arguments.skipValidation⟩
    if arguments.check then
      .ok ⟨options (arguments.output.getD Options.default.outputPath), true⟩
    else
      match arguments.output with
      | none => .error .noOutput
      | some output => .ok ⟨options output, false⟩

/-- What a run says and whether it fails. -/
structure Outcome where
  output : String
  failure : Option Failure
  deriving DecidableEq, Repr

namespace Outcome

/-- What a run says on the error channel. -/
def complaint (outcome : Outcome) : String :=
  match outcome.failure with
  | none => ""
  | some failure => "  ◆ Error: " ++ failure.message ++ "\n"

/-- The exit code of a run. -/
def exitCode (outcome : Outcome) : Nat :=
  if outcome.failure.isSome then 1 else 0

end Outcome

/-- A line that says something worth knowing. -/
def remark (text : String) : String :=
  "  ◇ " ++ text ++ "\n"

/-- The warning of a run that does not check what it generates. -/
def warning (options : Options) : String :=
  if options.skipValidation then remark "Skipping identifier and duplicate checks" else ""

/-- The line that says that a run succeeded. -/
def successLine (checkOnly : Bool) (summary : Summary) : String :=
  if checkOnly then "  ◉ Looking good.\n"
  else "  ◉ Successfully generated Astro content config at: " ++ summary.outputPath ++ "\n"

/-- The line about locales, if there are any. -/
def localeLine (locales : List String) : String :=
  if locales.isEmpty then ""
  else
    remark ("Found " ++ toString locales.length ++ " locale(s): "
      ++ String.intercalate ", " locales)

/-- The line that shows what the module exports. -/
def exportLine (constants : List String) : String :=
  "  export const collections = \x7b " ++ String.intercalate ", " constants ++ " \x7d\n"

/-- The line that says how long a run took. -/
def timingLine (checkOnly : Bool) (elapsed : String) : String :=
  remark ((if checkOnly then "Checked" else "Generated") ++ " in " ++ elapsed ++ "ms")

/-- The report of a run that succeeded. -/
def report (checkOnly : Bool) (summary : Summary) (elapsed : String) : String :=
  successLine checkOnly summary
    ++ remark ("Generated " ++ toString summary.collections ++ " collection(s)")
    ++ localeLine summary.locales ++ exportLine summary.constants
    ++ timingLine checkOnly elapsed

/-- The outcome of a task that was done. -/
def Task.outcome (task : Task) (elapsed : String) : Except Error Summary → Outcome
  | .error error => ⟨warning task.options, some (.compilation error)⟩
  | .ok summary =>
    ⟨warning task.options ++ report task.checkOnly summary elapsed, none⟩

/-- Do something and say how long it took. -/
abbrev Clock (Effect : Type → Type) : Type 1 :=
  ∀ {Result : Type}, Effect Result → Effect (Result × String)

section Runs

variable {Effect : Type → Type} [Monad Effect] (files : Files Effect)

/-- Do a task whose input is there. -/
def Task.performWith (task : Task) : Effect (Except Error Summary) :=
  if task.checkOnly then Compiler.checkWith files task.options
  else Compiler.compileWith files task.options

/-- Do a task and report it. -/
def Task.runWith (timed : Clock Effect) (task : Task) : Effect Outcome := do
  if ← files.contains task.options.configPath then
    let (result, elapsed) ← timed (task.performWith files)
    return task.outcome elapsed result
  else return ⟨"", some (.inputNotFound task.options.configPath)⟩

/-- Do what arguments ask for. -/
def runWith (timed : Clock Effect) (arguments : Arguments) : Effect Outcome :=
  match arguments.task with
  | .error failure => pure ⟨"", some failure⟩
  | .ok task => task.runWith files timed

end Runs

/-- Do what arguments ask for in a store, where everything takes the same time. -/
def run (arguments : Arguments) (elapsed : String) (store : FileStore) : Outcome × FileStore :=
  (runWith FileStore.files (fun action => do return (← action, elapsed)) arguments).run store

/-- The name and the version of the program. -/
def versionText : String :=
  "svestro 0.1.0\n"

/-- How the program is used. -/
def helpText : String :=
  String.join
    ([ "Generate Astro content configuration from Sveltia CMS configuration",
       "",
       "Usage: svestro [OPTIONS] [CONFIG] [OUTPUT]",
       "",
       "Arguments:",
       "  [CONFIG]  Path to the Sveltia config file",
       "  [OUTPUT]  Path of the Astro content config to write",
       "",
       "Options:",
       "  -p, --prefix <PATH>    Path prefix for collection base paths",
       "  -f, --format <FORMAT>  Config format (yaml or json), inferred from the file extension "
         ++ "by default",
       "      --check            Validate the Sveltia config without writing anything",
       "      --skip-validation  Skip identifier and duplicate checks",
       "  -h, --help             Print help",
       "  -V, --version          Print version" ].map fun line => line ++ "\n")

/-- The configuration that a dump shows: the first argument, or where a site keeps it. -/
def dumpOptions (arguments : List String) : Options :=
  { Options.default with configPath := arguments.head?.getD Options.default.configPath }

/-- What a dump says: the configuration, or the parts of the error. -/
def dumpText : Except Error Config → String
  | .ok config => config.dump ++ "\n"
  | .error error => "Error: " ++ error.inspect ++ "\n"

end ContentSchema.CommandLine
