import ContentSchema.Config
import ContentSchema.Schema

/-!
# The generated module

The module imports what it uses, defines one constant for every declaration of a
configuration, and exports all constants together.  Blocks are separated by one
empty line, and the text ends with a line feed.
-/

namespace ContentSchema

namespace Module

open Text (literal)

/-- The names that the module binds itself, so that no constant may have them. -/
def reservedBindings : List String :=
  ["defineCollection", "z", "reference", "glob", "collections"]

/-- The lines by which the module imports what it uses. -/
def imports : List String :=
  [ "import \x7b defineCollection, z, reference \x7d from \"astro:content\";",
    "import \x7b glob \x7d from \"astro/loaders\";" ]

/-- The files of a directory that are entries. -/
def entryPattern : String := "**/*.md"

/-- The width of the blanks in front of the fields of a collection. -/
def fieldIndent : Nat := 8

/-- The line that says where entries are loaded from. -/
def loaderLine (base : String) : String :=
  "    loader: glob(\x7b pattern: " ++ literal entryPattern ++ ", base: " ++ literal base
    ++ " \x7d),\n"

/-- The line or lines that say what every entry holds. -/
def schemaLines (widgets : List Widget) : String :=
  "    schema: " ++ Expression.blockRecord fieldIndent (Widget.entries widgets) ++ ",\n"

/-- The definition of a declaration. -/
def definition (declaration : Declaration) : String :=
  "defineCollection(\x7b\n" ++ loaderLine declaration.base
    ++ schemaLines declaration.collection.widgets ++ "\x7d)"

/-- The constant of a declaration with its definition. -/
def declarationText (declaration : Declaration) : String :=
  "const " ++ declaration.constant ++ " = " ++ definition declaration ++ ";"

/-- The statement that exports constants. -/
def exportStatement (constants : List String) : String :=
  if constants.isEmpty then "export const collections = \x7b\x7d;"
  else "export const collections = \x7b " ++ String.intercalate ", " constants ++ " \x7d;"

/-- The module of a configuration. -/
def text (config : Config) : String :=
  String.join (imports.map fun line => line ++ "\n") ++ "\n"
    ++ String.join (config.declarations.map fun declaration =>
      declarationText declaration ++ "\n\n")
    ++ exportStatement config.constants ++ "\n"

end Module

/-- A module with the constants that it defines. -/
structure Module where
  content : String
  constants : List String
  deriving DecidableEq, Repr

/-- The module of a configuration, with its constants. -/
def Module.ofConfig (config : Config) : Module :=
  ⟨Module.text config, config.constants⟩

end ContentSchema
