import ContentSchema.CommandLine

/-!
# The program

Arguments, files and output channels of the operating system around the functions
of the library.
-/

namespace ContentSchema.Program

open CommandLine

/-- A fault of the operating system, by its number where it has a meaning of its own. -/
def faultOf : IO.Error → Fault
  | .noFileOrDirectory _ _ _ => .notFound
  | .alreadyExists _ 17 _ => .alreadyExists
  | .inappropriateType _ 20 _ => .notDirectory
  | .inappropriateType _ 21 _ => .isDirectory
  | .invalidArgument _ 36 _ => .nameTooLong
  | error => .other (toString error)

/-- Do something with the disk and give its fault if it has one. -/
def attempt {Result : Type} (action : IO Result) : IO (Except Fault Result) := do
  match ← action.toBaseIO with
  | .ok result => return .ok result
  | .error error => return .error (faultOf error)

/-- The files of a disk. -/
def disk : Files IO where
  contains path := do
    return (← attempt (IO.FS.realPath path)).isOk
  readText path := do
    match ← attempt (IO.FS.readBinFile path) with
    | .error fault => return .error fault
    | .ok bytes =>
      match String.fromUTF8? bytes with
      | some text => return .ok text
      | none => return .error .notText
  makeDirectoryPath path := attempt (IO.FS.createDirAll path)
  writeText path text := attempt (IO.FS.writeFile path text)

/-- Do something and say how many milliseconds it took. -/
def timed : Clock IO := fun action => do
  let begun ← IO.monoMsNow
  let result ← action
  let ended ← IO.monoMsNow
  return (result, toString (ended - begun))

/-- Report an outcome on the channels of the program. -/
def reportOutcome (outcome : Outcome) : IO UInt32 := do
  IO.print outcome.output
  IO.eprint outcome.complaint
  return UInt32.ofNat outcome.exitCode

end ContentSchema.Program

open ContentSchema ContentSchema.CommandLine ContentSchema.Program in
/-- Do what the arguments ask for. -/
def main (arguments : List String) : IO UInt32 := do
  match Request.ofList arguments with
  | .help => reportOutcome ⟨helpText, none⟩
  | .version => reportOutcome ⟨versionText, none⟩
  | .misuse =>
    IO.eprint helpText
    return 2
  | .run arguments => reportOutcome (← runWith disk timed arguments)
