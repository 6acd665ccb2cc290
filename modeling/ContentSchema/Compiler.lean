import ContentSchema.Descriptor
import ContentSchema.FileStore
import ContentSchema.Format
import ContentSchema.Validity

/-!
# Compilation

A compilation reads a configuration, checks it, generates the module and writes
it.  Each stage only runs when all before it succeeded, so the output is touched
only when there is a module to write.  The same stages serve a text on its own, a
file that is checked, and a file that is compiled, on a disk or in a store.
-/

namespace ContentSchema

/-- What a compilation works on and how. -/
structure Options where
  configPath : String
  outputPath : String
  pathPrefix : Option String
  /-- The format of the configuration; the extension of its path decides if there is none. -/
  format : Option String
  skipValidation : Bool
  deriving DecidableEq, Repr

/-- Where a site keeps its configuration and its module. -/
def Options.default : Options :=
  ⟨"./static/admin/config.yml", "./src/content/config.ts", none, none, false⟩

/-- What a compilation has done. -/
structure Summary where
  collections : Nat
  /-- The number of fields of all collections, those inside lists not counted. -/
  fields : Nat
  locales : List String
  constants : List String
  outputPath : String
  deriving DecidableEq, Repr

namespace Compiler

/-- The path of a text that comes from no file. -/
def textPath : String := "<input>"

/-- The configuration that a text writes in a format. -/
def configOfText (format : Format) (path : String) (lead : Option String) (text : String) :
    Except Error Config := do
  let document ← format.read path text
  Descriptor.config lead document

/-- The module of a text in a format given by its name. -/
def compileText (text format : String) (lead : Option String) : Except Error String := do
  let format ← Format.ofName format
  let config ← configOfText format textPath lead text
  Validity.check config
  return (Module.ofConfig config).content

/-- The format in which a configuration is read. -/
def formatOf (options : Options) : Except Error Format :=
  match options.format with
  | some name => Format.ofName name
  | none => .ok (Format.ofPath options.configPath)

/-- The outcome of a file operation, as an error that names the path. -/
def accessing {Result : Type} (path : String) : Except Fault Result → Except Error Result
  | .ok result => .ok result
  | .error fault => .error (.fileAccess path fault.message)

/-- The configuration of a text that was read from a file, if it could be read. -/
def configOfFile (options : Options) (contents : Except Fault String) :
    Except Error Config := do
  let text ← accessing options.configPath contents
  let format ← formatOf options
  configOfText format options.configPath options.pathPrefix text

/-- The checks that the options ask for. -/
def validate (options : Options) (config : Config) : Except Error Unit :=
  if options.skipValidation then .ok () else Validity.check config

/-- A configuration that may be generated, from the contents of its file. -/
def validConfigOfFile (options : Options) (contents : Except Fault String) :
    Except Error Config := do
  let config ← configOfFile options contents
  validate options config
  return config

/-- What there is to say about a configuration that was generated. -/
def summarize (options : Options) (config : Config) : Summary :=
  ⟨config.collections.length, config.fieldCount, config.locales, config.constants,
    options.outputPath⟩

/-- The configuration of the file that the options name. -/
def loadConfig (options : Options) (store : FileStore) : Except Error Config :=
  configOfFile options (store.readText options.configPath)

/-- The module of the file that the options name. -/
def generate (options : Options) (store : FileStore) : Except Error Module :=
  (validConfigOfFile options (store.readText options.configPath)).map Module.ofConfig

/-- The directory that has to be there before a path is written, if it is not given. -/
def outputDirectory? (path : String) : Option String :=
  (Path.parent? path).filter fun directory => directory != ""

/-! ## The stages, on files of any kind -/

section Stages

variable {Effect : Type → Type} [Monad Effect] (files : Files Effect)

/-- Make the directory of a path, if there is one to make. -/
def prepareDirectoryWith (path : String) : Effect (Except Error Unit) :=
  match outputDirectory? path with
  | none => pure (.ok ())
  | some directory => accessing directory <$> files.makeDirectoryPath directory

/-- Write a text to a path, in a directory that is made if it is missing. -/
def writeOutputWith (path text : String) : Effect (Except Error Unit) := do
  match ← prepareDirectoryWith files path with
  | .error error => return .error error
  | .ok () => accessing path <$> files.writeText path text

/-- Check the file that the options name. -/
def checkWith (options : Options) : Effect (Except Error Summary) := do
  let contents ← files.readText options.configPath
  return (validConfigOfFile options contents).map (summarize options)

/-- Compile the file that the options name: the module is written to the output path. -/
def compileWith (options : Options) : Effect (Except Error Summary) := do
  match validConfigOfFile options (← files.readText options.configPath) with
  | .error error => return .error error
  | .ok config =>
    let written ← writeOutputWith files options.outputPath (Module.ofConfig config).content
    return written.map fun _ => summarize options config

end Stages

/-! ## The stages in a store -/

/-- Make the directory of a path in a store. -/
def prepareDirectory (path : String) (store : FileStore) : Except Error Unit × FileStore :=
  (prepareDirectoryWith FileStore.files path).run store

/-- Write a text to a path in a store. -/
def writeOutput (path text : String) (store : FileStore) : Except Error Unit × FileStore :=
  (writeOutputWith FileStore.files path text).run store

/-- Check a file in a store, which is left as it is. -/
def check (options : Options) (store : FileStore) : Except Error Summary :=
  ((checkWith FileStore.files options).run store).1

/-- Compile a file in a store. -/
def compile (options : Options) (store : FileStore) : Except Error Summary × FileStore :=
  (compileWith FileStore.files options).run store

end Compiler

end ContentSchema
