import ContentSchema.Config
import ContentSchema.Document.Pretty

/-!
# Configurations as documents

A dump shows a configuration as a document.  Every part has its properties in a
fixed order, and the prefix of a collection is left out when there is none.
-/

namespace ContentSchema

/-- The properties of a leaf, its kind first. -/
def Leaf.members (content : Leaf) : List (String × Document) :=
  ("widget", .string content.tag.text) ::
    match content with
    | .scalar _ => []
    | .select options enumeration =>
      [("options", .array (options.map .string)), ("enumeration", .string enumeration)]
    | .relation collection multiple =>
      [("collection", .string collection), ("multiple", .boolean multiple)]

mutual

/-- A widget as a document. -/
def Widget.document : Widget → Document
  | .leaf name required content =>
    .object (("name", .string name) :: ("required", .boolean required) :: content.members)
  | .list name required items =>
    .object
      [ ("name", .string name), ("required", .boolean required),
        ("widget", .string Tag.list.text), ("items", .array (Widget.documents items)) ]

/-- Widgets as documents. -/
def Widget.documents : List Widget → List Document
  | [] => []
  | widget :: rest => Widget.document widget :: Widget.documents rest

end

/-- A collection as a document. -/
def Collection.document (collection : Collection) : Document :=
  .object
    ([ ("name", .string collection.name), ("folder", .string collection.folder),
       ("widgets", .array (Widget.documents collection.widgets)) ]
      ++ match collection.pathPrefix with
        | none => []
        | some lead => [("path_prefix", .string lead)])

/-- A configuration as a document. -/
def Config.document (config : Config) : Document :=
  .object
    [ ("collections", .array (config.collections.map Collection.document)),
      ("locales", .array (config.locales.map .string)) ]

/-- The dump of a configuration. -/
def Config.dump (config : Config) : String :=
  config.document.pretty

end ContentSchema
