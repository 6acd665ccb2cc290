import ContentSchema.Text.Quoted

/-!
# Errors

An error is the one cause for which a compilation stops.  It has a message for
people, a code and sometimes a hint, and a form that shows its parts one by one.
-/

namespace ContentSchema

/-- Why a compilation stops. -/
inductive Error where
  /-- A file or directory cannot be read, created or written. -/
  | fileAccess (path reason : String)
  /-- A text does not follow the rules of its format. -/
  | malformed (path reason : String)
  /-- No format has that name. -/
  | unsupportedFormat (format : String)
  /-- A property is not there. -/
  | missingProperty (property context : String)
  /-- A property has a value of the wrong sort. -/
  | invalidProperty (property context : String)
  /-- No kind of widget is known by what was received. -/
  | unknownWidget (field received : String)
  /-- A choice has no usable options. -/
  | invalidOptions (field : String)
  /-- A list has no usable fields. -/
  | invalidListFields (field : String)
  /-- A relation names no collection. -/
  | invalidRelationTarget (field : String)
  /-- Lists lie too deep in one another. -/
  | nestedTooDeep (field : String) (limit : Nat)
  /-- A constant is no identifier. -/
  | invalidIdentifier (constant : String)
  /-- A constant is taken. -/
  | duplicateConstant (constant : String)
  /-- A record has two fields of one name. -/
  | duplicateField (field context : String)
  deriving DecidableEq, Repr

namespace Error

/-- The error for people, on one line as long as the names in it are. -/
def message : Error → String
  | .fileAccess path reason => "Failed to access file '" ++ path ++ "': " ++ reason
  | .malformed path reason => "Failed to parse config file '" ++ path ++ "': " ++ reason
  | .unsupportedFormat format => "Unsupported config format: " ++ format
  | .missingProperty property context => "Missing '" ++ property ++ "' property in " ++ context
  | .invalidProperty property context => "Invalid '" ++ property ++ "' property in " ++ context
  | .unknownWidget field received =>
    "Invalid 'widget' property in field " ++ field ++ ". Received " ++ received
  | .invalidOptions field =>
    "Missing or invalid 'options' property in select field " ++ field
  | .invalidListFields field => "Missing or invalid 'fields' property in list " ++ field
  | .invalidRelationTarget field =>
    "Missing or invalid 'collection' property in relation field " ++ field
  | .nestedTooDeep field limit =>
    "List field " ++ field ++ " is nested more than " ++ toString limit ++ " levels deep"
  | .invalidIdentifier constant =>
    "'" ++ constant ++ "' is not a valid identifier for a collection constant"
  | .duplicateConstant constant =>
    "Collection constant '" ++ constant ++ "' is declared more than once"
  | .duplicateField field context =>
    "Field '" ++ field ++ "' is declared more than once in " ++ context

/-- The name of the kind of error. -/
def kind : Error → String
  | .fileAccess _ _ => "IoError"
  | .malformed _ _ => "ParseFailed"
  | .unsupportedFormat _ => "UnsupportedFormat"
  | .missingProperty _ _ => "MissingField"
  | .invalidProperty _ _ => "InvalidFieldType"
  | .unknownWidget _ _ => "InvalidWidgetKind"
  | .invalidOptions _ => "InvalidOptions"
  | .invalidListFields _ => "InvalidListFields"
  | .invalidRelationTarget _ => "InvalidRelationTarget"
  | .nestedTooDeep _ _ => "NestingTooDeep"
  | .invalidIdentifier _ => "InvalidIdentifier"
  | .duplicateConstant _ => "DuplicateCollection"
  | .duplicateField _ _ => "DuplicateField"

/-- The code of the kind of error. -/
def code : Error → String
  | .fileAccess _ _ => "svestro::io::io_error"
  | .malformed _ _ => "svestro::parse::parse_failed"
  | .unsupportedFormat _ => "svestro::frontend::unsupported_format"
  | .missingProperty _ _ => "svestro::descriptor::missing_field"
  | .invalidProperty _ _ => "svestro::descriptor::invalid_field_type"
  | .unknownWidget _ _ => "svestro::widget::invalid_kind"
  | .invalidOptions _ => "svestro::widget::invalid_options"
  | .invalidListFields _ => "svestro::widget::invalid_list_fields"
  | .invalidRelationTarget _ => "svestro::widget::invalid_relation_target"
  | .nestedTooDeep _ _ => "svestro::widget::nesting_too_deep"
  | .invalidIdentifier _ => "svestro::structure::invalid_identifier"
  | .duplicateConstant _ => "svestro::structure::duplicate_collection"
  | .duplicateField _ _ => "svestro::structure::duplicate_field"

/-- What may help against an error. -/
def hint? : Error → Option String
  | .malformed _ _ => some "The Sveltia config must be a YAML (or JSON) document"
  | .unsupportedFormat _ => some "Supported formats are: yaml, yml, json"
  | .unknownWidget _ _ =>
    some ("Supported widgets are: boolean, code, color, datetime, file, image, list, markdown, "
      ++ "number, relation, select, string, uuid")
  | .invalidOptions _ =>
    some ("Options must be a non-empty list of strings or of "
      ++ "\x7b label, value \x7d objects with a string value")
  | .invalidListFields _ =>
    some "A list needs either a single 'field' object or a non-empty 'fields' list"
  | .invalidIdentifier _ =>
    some ("Collection names (and locale codes) become TypeScript constant names: "
      ++ "use letters, digits, '_' or '$'")
  | .duplicateConstant _ =>
    some ("Constant names must be unique and must not shadow "
      ++ "defineCollection, z, reference, glob or collections")
  | _ => none

/-- The property that an error is about, if it is about one. -/
def property? : Error → Option String
  | .missingProperty property _ => some property
  | .invalidProperty property _ => some property
  | _ => none

/-- The parts of an error, each with its name, as they are shown. -/
def parts : Error → List (String × String)
  | .fileAccess path reason => [("path", Text.quoted path), ("message", Text.quoted reason)]
  | .malformed path reason => [("path", Text.quoted path), ("message", Text.quoted reason)]
  | .unsupportedFormat format => [("format", Text.quoted format)]
  | .missingProperty property context =>
    [("field", Text.quoted property), ("context", Text.quoted context)]
  | .invalidProperty property context =>
    [("field", Text.quoted property), ("context", Text.quoted context)]
  | .unknownWidget field received =>
    [("field", Text.quoted field), ("kind", Text.quoted received)]
  | .invalidOptions field => [("field", Text.quoted field)]
  | .invalidListFields field => [("field", Text.quoted field)]
  | .invalidRelationTarget field => [("field", Text.quoted field)]
  | .nestedTooDeep field limit =>
    [("field", Text.quoted field), ("max_depth", toString limit)]
  | .invalidIdentifier constant => [("name", Text.quoted constant)]
  | .duplicateConstant constant => [("name", Text.quoted constant)]
  | .duplicateField field context =>
    [("field", Text.quoted field), ("context", Text.quoted context)]

/-- An error with its parts shown one by one. -/
def inspect (error : Error) : String :=
  error.kind ++ " \x7b "
    ++ String.intercalate ", " (error.parts.map fun part => part.1 ++ ": " ++ part.2)
    ++ " \x7d"

end Error

end ContentSchema
