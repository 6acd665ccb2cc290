import ContentSchema.Error
import ContentSchema.Module

/-!
# Validity of a configuration

Two things can be wrong with a configuration that was read without error: a
constant is no identifier or is taken, by the module itself or by an earlier
declaration; and a record has two fields of one name.  Constants are looked at
before fields.  Fields are looked at from left to right, those inside a list right
after the list.
-/

namespace ContentSchema.Validity

/-- Each constant has to be an identifier that is not taken yet. -/
def checkConstants (taken : List String) : List String → Except Error Unit
  | [] => .ok ()
  | constant :: rest =>
    if !Text.isIdentifier constant then .error (.invalidIdentifier constant)
    else if taken.contains constant then .error (.duplicateConstant constant)
    else checkConstants (constant :: taken) rest

mutual

/-- Each field of a record has to have a name of its own. -/
def checkRecord (context : String) (seen : List String) : List Widget → Except Error Unit
  | [] => .ok ()
  | widget :: rest =>
    if seen.contains widget.name then .error (.duplicateField widget.name context)
    else
      match checkItems widget with
      | .error error => .error error
      | .ok () => checkRecord context (widget.name :: seen) rest

/-- The fields of a list are a record. -/
def checkItems : Widget → Except Error Unit
  | .leaf _ _ _ => .ok ()
  | .list name _ items => checkRecord ("list " ++ name) [] items

end

/-- The fields of each collection are a record. -/
def checkFields : List Collection → Except Error Unit
  | [] => .ok ()
  | collection :: rest =>
    match checkRecord ("collection " ++ collection.name) [] collection.widgets with
    | .error error => .error error
    | .ok () => checkFields rest

/-- A configuration is valid when its constants and its fields are. -/
def check (config : Config) : Except Error Unit :=
  match checkConstants Module.reservedBindings config.constants with
  | .error error => .error error
  | .ok () => checkFields config.collections

end ContentSchema.Validity
