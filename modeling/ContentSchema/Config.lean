import ContentSchema.Widget

/-!
# Configurations

A configuration is a list of collections and a list of locales.  Every
collection is declared once for each locale, or once without a locale when there
is none.  A declaration has a constant, by which the module names it, and a base,
the directory from which its entries are loaded.
-/

namespace ContentSchema

/-- A folder of entries with the fields of each entry. -/
structure Collection where
  name : String
  folder : String
  widgets : List Widget
  /-- What stands in front of the folder, if anything does. -/
  pathPrefix : Option String
  deriving Repr

namespace Collection

/-- The constant of a collection: its name, followed by the locale if there is one. -/
def constant (collection : Collection) : Option String → String
  | none => collection.name
  | some locale => collection.name ++ "_" ++ locale

/-- The directory of a collection before any locale. -/
def root (collection : Collection) : String :=
  match collection.pathPrefix with
  | none => collection.folder
  | some lead => lead ++ "/" ++ collection.folder

/-- The directory of a collection, in which every locale has a directory of its own. -/
def base (collection : Collection) : Option String → String
  | none => collection.root
  | some locale => collection.root ++ "/" ++ locale

end Collection

/-- One collection in one locale. -/
structure Declaration where
  collection : Collection
  locale : Option String
  deriving Repr

namespace Declaration

/-- The name by which the module calls a declaration. -/
def constant (declaration : Declaration) : String :=
  declaration.collection.constant declaration.locale

/-- The directory from which the entries of a declaration come. -/
def base (declaration : Declaration) : String :=
  declaration.collection.base declaration.locale

end Declaration

/-- A whole configuration. -/
structure Config where
  collections : List Collection
  locales : List String
  deriving Repr

namespace Config

/-- The configuration without collections and locales. -/
def empty : Config := ⟨[], []⟩

/-- The locales of the declarations of one collection. -/
def localeChoices (config : Config) : List (Option String) :=
  if config.locales.isEmpty then [none] else config.locales.map some

/-- All declarations: by collection, and within a collection by locale. -/
def declarations (config : Config) : List Declaration :=
  config.collections.flatMap fun collection =>
    config.localeChoices.map fun locale => ⟨collection, locale⟩

/-- The constants of all declarations, in order. -/
def constants (config : Config) : List String :=
  config.declarations.map Declaration.constant

/-- Change the collection at a position, if there is one. -/
def modifyCollection (config : Config) (position : Nat) (change : Collection → Collection) :
    Config :=
  { config with collections := config.collections.modify position change }

/-- The number of fields of all collections, those inside lists not counted. -/
def fieldCount (config : Config) : Nat :=
  config.collections.foldl (fun count collection => count + collection.widgets.length) 0

end Config

end ContentSchema
