/-!
# Arguments of the command line

Arguments are taken from left to right, and the first one that settles the matter
does so: a request for help or the version, or a misuse.  An option with a value
takes it from the same argument or from the next one, which then must not look
like an option itself.  After a double dash every argument is a path.
-/

namespace ContentSchema.CommandLine

/-- What the arguments ask for. -/
structure Arguments where
  config : Option String
  output : Option String
  pathPrefix : Option String
  format : Option String
  check : Bool
  skipValidation : Bool
  deriving DecidableEq, Repr

/-- No argument at all. -/
def Arguments.empty : Arguments :=
  ⟨none, none, none, none, false, false⟩

/-- What a list of arguments comes to. -/
inductive Request where
  | run (arguments : Arguments)
  | help
  | version
  | misuse
  deriving DecidableEq, Repr

/-- The options that have a value. -/
inductive Setting where
  | pathPrefix
  | format
  deriving DecidableEq, Repr

/-- The options that have none. -/
inductive Switch where
  | check
  | skipValidation
  | help
  | version
  deriving DecidableEq, Repr

/-- An option with or without a value. -/
inductive Known where
  | setting (setting : Setting)
  | switch (switch : Switch)
  deriving DecidableEq, Repr

/-- The option with a long name. -/
def Known.ofName? (name : String) : Option Known :=
  if name == "prefix" then some (.setting .pathPrefix)
  else if name == "format" then some (.setting .format)
  else if name == "check" then some (.switch .check)
  else if name == "skip-validation" then some (.switch .skipValidation)
  else if name == "help" then some (.switch .help)
  else if name == "version" then some (.switch .version)
  else none

/-- The option with a letter. -/
def Known.ofLetter? (letter : Char) : Option Known :=
  if letter == 'p' then some (.setting .pathPrefix)
  else if letter == 'f' then some (.setting .format)
  else if letter == 'h' then some (.switch .help)
  else if letter == 'V' then some (.switch .version)
  else none

namespace Arguments

/-- Give an option its value, once. -/
def set (arguments : Arguments) (setting : Setting) (value : String) : Except Request Arguments :=
  match setting with
  | .pathPrefix =>
    if arguments.pathPrefix.isSome then .error .misuse
    else .ok { arguments with pathPrefix := some value }
  | .format =>
    if arguments.format.isSome then .error .misuse
    else .ok { arguments with format := some value }

/-- Turn a switch on, once. -/
def turnOn (arguments : Arguments) : Switch → Except Request Arguments
  | .help => .error .help
  | .version => .error .version
  | .check =>
    if arguments.check then .error .misuse else .ok { arguments with check := true }
  | .skipValidation =>
    if arguments.skipValidation then .error .misuse
    else .ok { arguments with skipValidation := true }

/-- Take a path: the configuration comes first, the output second. -/
def addPath (arguments : Arguments) (path : String) : Except Request Arguments :=
  if path == "" then .error .misuse
  else if arguments.config.isNone then .ok { arguments with config := some path }
  else if arguments.output.isNone then .ok { arguments with output := some path }
  else .error .misuse

/-- Take paths only. -/
def addPaths (arguments : Arguments) : List String → Except Request Arguments
  | [] => .ok arguments
  | path :: rest => do (← arguments.addPath path).addPaths rest

end Arguments

/-- What one argument is, once it is known which option it names. -/
inductive Reading where
  /-- The argument is complete. -/
  | complete (arguments : Arguments)
  /-- The option takes the next argument as its value. -/
  | awaiting (setting : Setting) (arguments : Arguments)

/-- An option by its long name, with what stands after an equals sign. -/
def readLong (arguments : Arguments) (name : String) (value : Option String) :
    Except Request Reading :=
  match Known.ofName? name, value with
  | none, _ => .error .misuse
  | some (.setting setting), some value => return .complete (← arguments.set setting value)
  | some (.setting setting), none => .ok (.awaiting setting arguments)
  | some (.switch _), some _ => .error .misuse
  | some (.switch switch), none => return .complete (← arguments.turnOn switch)

/-- Options by their letters, one after the other; the rest of the argument is a value. -/
def readLetters (arguments : Arguments) : List Char → Except Request Reading
  | [] => .ok (.complete arguments)
  | letter :: rest =>
    match Known.ofLetter? letter with
    | none => .error .misuse
    | some (.switch switch) => do readLetters (← arguments.turnOn switch) rest
    | some (.setting setting) =>
      match rest with
      | [] => .ok (.awaiting setting arguments)
      | '=' :: value => return .complete (← arguments.set setting (String.ofList value))
      | value => return .complete (← arguments.set setting (String.ofList value))

/-- An argument looks like an option when it starts with a dash and goes on. -/
def looksLikeOption (argument : String) : Bool :=
  match argument.toList with
  | '-' :: _ :: _ => true
  | _ => false

/-- One argument before any double dash. -/
def readArgument (arguments : Arguments) (argument : String) : Except Request Reading :=
  match argument.toList with
  | '-' :: '-' :: rest =>
    let name := String.ofList (rest.takeWhile (· != '='))
    match rest.dropWhile (· != '=') with
    | [] => readLong arguments name none
    | _ :: value => readLong arguments name (some (String.ofList value))
  | '-' :: letter :: rest => readLetters arguments (letter :: rest)
  | _ => return .complete (← arguments.addPath argument)

/-- All arguments, after those that are taken already. -/
def readArguments (arguments : Arguments) : List String → Except Request Arguments
  | [] => .ok arguments
  | "--" :: rest => arguments.addPaths rest
  | argument :: rest => do
    match ← readArgument arguments argument with
    | .complete taken => readArguments taken rest
    | .awaiting setting taken =>
      match rest with
      | [] => .error .misuse
      | value :: further =>
        if looksLikeOption value then .error .misuse
        else readArguments (← taken.set setting value) further

/-- What a list of arguments comes to. -/
def Request.ofList (arguments : List String) : Request :=
  match readArguments Arguments.empty arguments with
  | .ok taken => .run taken
  | .error request => request

end ContentSchema.CommandLine
