import ContentSchema.Error
import ContentSchema.FileStore.Path
import ContentSchema.Json.Reader
import ContentSchema.Yaml.Reader

/-!
# Formats of configuration texts

A format is found by its name, in which the case of letters does not matter, or
by the extension of a path, which is YAML unless it says JSON.
-/

namespace ContentSchema

/-- The formats in which a configuration can be written. -/
inductive Format where
  | yaml
  | json
  deriving DecidableEq, Repr

namespace Format

/-- The name of a format. -/
def name : Format → String
  | .yaml => "yaml"
  | .json => "json"

/-- The extensions of files in a format. -/
def extensions : Format → List String
  | .yaml => ["yml", "yaml"]
  | .json => ["json"]

/-- A text with the capital letters of ASCII made small. -/
def lowerCase (text : String) : String :=
  text.map Char.toLower

/-- The format that has a name, which may also be one of its extensions. -/
def ofName (text : String) : Except Error Format :=
  let small := lowerCase text
  if small == "yaml" || small == "yml" then .ok .yaml
  else if small == "json" then .ok .json
  else .error (.unsupportedFormat text)

/-- The format of the file at a path. -/
def ofPath (path : String) : Format :=
  match Path.extension? path with
  | none => .yaml
  | some ending => if json.extensions.contains (lowerCase ending) then .json else .yaml

/-- The document that a text writes in a format. -/
def read? : Format → String → Option Document
  | .yaml, text => Yaml.read text
  | .json, text => Json.read text

/-- What is wrong with a text that writes no document. -/
def complaint (format : Format) : String :=
  "the text is no well-formed " ++ format.name

/-- The document that a text writes; the path says where the text comes from. -/
def read (format : Format) (path text : String) : Except Error Document :=
  match format.read? text with
  | some document => .ok document
  | none => .error (.malformed path format.complaint)

end Format

end ContentSchema
