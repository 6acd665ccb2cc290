import ContentSchema.Config
import ContentSchema.Document.Compact
import ContentSchema.Error
import ContentSchema.Text.Blank

/-!
# Descriptors

A descriptor is a part of a document that describes a field, a collection or a
whole configuration.  Its properties are looked at in a fixed order, and the first
one that does not hold what it should is the error.

For a field the order is `name`, `widget`, `required`, and then what the kind of
widget needs.  A list first counts the lists around it, then takes its fields from
`field`, if that is an object, and from `fields` otherwise.
-/

namespace ContentSchema.Descriptor

open Text (isBlank)

/-- The greatest number of lists that may lie in one another. -/
def listLimit : Nat := 32

/-- A text that is not blank. -/
def usableText? : Document → Option String
  | .string text => if isBlank text then none else some text
  | _ => none

/-- A property that has to be a text and not a blank one. -/
def requiredText (descriptor : Document) (property context : String) : Except Error String :=
  match descriptor.member? property with
  | none => .error (.missingProperty property context)
  | some value =>
    match usableText? value with
    | some text => .ok text
    | none => .error (.invalidProperty property context)

/-- A property that is a truth value if it is there at all. -/
def flag (descriptor : Document) (property context : String) (default : Bool) :
    Except Error Bool :=
  match descriptor.member? property with
  | none => .ok default
  | some (.boolean value) => .ok value
  | some _ => .error (.invalidProperty property context)

/-- How an error speaks of a field. -/
def fieldContext (name : String) : String :=
  "field " ++ name

/-- How an error speaks of a collection. -/
def collectionContext (name : String) : String :=
  "collection " ++ name

/-- How an error speaks of the whole document. -/
def documentContext : String :=
  "config document"

/-- The kind of widget that a field names. -/
def widgetTag (descriptor : Document) (name : String) : Except Error Tag :=
  match descriptor.member? "widget" with
  | none => .error (.missingProperty "widget" (fieldContext name))
  | some (.string text) =>
    match Tag.ofText? text with
    | some tag => .ok tag
    | none => .error (.unknownWidget name text)
  | some other => .error (.unknownWidget name other.compact)

/-- The text of an option, which may stand in its member `value`. -/
def optionText? : Document → Option String
  | .string text => some text
  | option => (option.member? "value").bind Document.string?

/-- What a choice holds. -/
def selectLeaf (descriptor : Document) (name : String) : Except Error Leaf :=
  match descriptor.member? "options" with
  | some (.array (first :: rest)) =>
    match (first :: rest).mapM optionText? with
    | some options => .ok (.selectOf options)
    | none => .error (.invalidOptions name)
  | _ => .error (.invalidOptions name)

/-- What a relation holds. -/
def relationLeaf (descriptor : Document) (name : String) : Except Error Leaf :=
  match (descriptor.member? "collection").bind usableText? with
  | none => .error (.invalidRelationTarget name)
  | some collection => do
    let multiple ← flag descriptor "multiple" (fieldContext name) false
    return .relation collection multiple

/-- The descriptors of the fields of a list. -/
def listItems (descriptor : Document) (name : String) : Except Error (List Document) :=
  match descriptor.member? "field", descriptor.member? "fields" with
  | some (.object members), _ => .ok [.object members]
  | _, some (.array (first :: rest)) => .ok (first :: rest)
  | _, _ => .error (.invalidListFields name)

/-- The widget of a field, if so many further lists may lie in one another. -/
def widgetWithin (lists : Nat) (descriptor : Document) : Except Error Widget := do
  let name ← requiredText descriptor "name" (fieldContext descriptor.compact)
  let tag ← widgetTag descriptor name
  let required ← flag descriptor "required" (fieldContext name) true
  match tag with
  | .scalar kind => return .ofLeaf name required (.scalar kind)
  | .select => return .ofLeaf name required (← selectLeaf descriptor name)
  | .relation => return .ofLeaf name required (← relationLeaf descriptor name)
  | .list =>
    match lists with
    | 0 => throw (.nestedTooDeep name listLimit)
    | further + 1 =>
      let items ← listItems descriptor name
      return .ofItems name (← items.mapM (widgetWithin further))

/-- The widget of a field. -/
def widget (descriptor : Document) : Except Error Widget :=
  widgetWithin listLimit descriptor

/-- An empty lead in front of folders counts as none. -/
def usablePrefix (lead : Option String) : Option String :=
  lead.filter fun text => !text.isEmpty

/-- The descriptors of the fields of a collection. -/
def collectionFields (descriptor : Document) (name : String) : Except Error (List Document) :=
  match descriptor.member? "fields" with
  | none => .error (.missingProperty "fields" (collectionContext name))
  | some (.array fields) => .ok fields
  | some _ => .error (.invalidProperty "fields" (collectionContext name))

/-- The collection of a descriptor. -/
def collection (lead : Option String) (descriptor : Document) : Except Error Collection := do
  let name ← requiredText descriptor "name" "collection configuration"
  let folder ← requiredText descriptor "folder" (collectionContext name)
  let fields ← collectionFields descriptor name
  let widgets ← fields.mapM widget
  return ⟨name, folder, widgets, usablePrefix lead⟩

/-- The error of locales that are not a list of texts. -/
def invalidLocales : Error :=
  .invalidProperty "i18n.locales" documentContext

/-- The locales of a document: those of `i18n.locales`, or none where that is missing or null. -/
def locales (document : Document) : Except Error (List String) :=
  match (document.member? "i18n").bind fun settings => settings.member? "locales" with
  | none => .ok []
  | some .null => .ok []
  | some (.array values) =>
    match values.mapM usableText? with
    | some codes => .ok codes
    | none => .error invalidLocales
  | some _ => .error invalidLocales

/-- The descriptors of the collections of a document. -/
def collectionDescriptors (document : Document) : Except Error (List Document) :=
  match document with
  | .object _ =>
    match document.member? "collections" with
    | none => .error (.missingProperty "collections" documentContext)
    | some (.array descriptors) => .ok descriptors
    | some _ => .error (.invalidProperty "collections" documentContext)
  | _ => .error (.invalidProperty "root" documentContext)

/-- The collection of a descriptor in a document, where it has to be an object. -/
def collectionObject (lead : Option String) (descriptor : Document) : Except Error Collection :=
  match descriptor with
  | .object _ => collection lead descriptor
  | _ => .error (.invalidProperty "collections" documentContext)

/-- The configuration of a document, with a lead in front of every folder. -/
def config (lead : Option String) (document : Document) : Except Error Config := do
  let descriptors ← collectionDescriptors document
  let collections ← descriptors.mapM (collectionObject lead)
  let codes ← locales document
  return ⟨collections, codes⟩

end ContentSchema.Descriptor
