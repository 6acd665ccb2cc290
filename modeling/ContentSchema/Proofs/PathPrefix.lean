import Mathlib
import ContentSchema.Compiler
import ContentSchema.Proofs.LineReading

/-!
# The reach of the path prefix

A path prefix is handed through the whole conversion and stored with every
collection, but only the directories of the loaders are made from it.  A conversion
with a prefix is one without, whose collections then get the prefix; the check of a
configuration does not see it, and a module shows it in one literal of each
declaration.  So two prefixes give the same error, or modules with the same text
apart from these literals.
-/

namespace ContentSchema

open Reading (readLiteral)
open Text (literal)
open Traversal (bind_eq_ok_iff map_mapM)

/-! ## Conversion -/

/-- A collection with another prefix. -/
def Collection.withPrefix (lead : Option String) (collection : Collection) : Collection :=
  { collection with pathPrefix := lead }

/-- A declaration whose collection has another prefix. -/
def Declaration.withPrefix (lead : Option String) (declaration : Declaration) : Declaration :=
  { declaration with collection := declaration.collection.withPrefix lead }

/-- A configuration with another prefix in all its collections. -/
def Config.withPrefix (lead : Option String) (config : Config) : Config :=
  { config with collections := config.collections.map (Collection.withPrefix lead) }

namespace Descriptor

/-- A prefix is added to a collection after all else is converted. -/
theorem collection_eq_map (lead : Option String) (descriptor : Document) :
    collection lead descriptor =
      Collection.withPrefix (usablePrefix lead) <$> collection none descriptor := by
  unfold collection
  simp only [map_bind, map_pure]
  rfl

theorem collectionObject_eq_map (lead : Option String) (descriptor : Document) :
    collectionObject lead descriptor =
      Collection.withPrefix (usablePrefix lead) <$> collectionObject none descriptor := by
  cases descriptor with
  | object members =>
      exact collection_eq_map lead (.object members)
  | _ =>
      rfl

/-- A prefix is added to what is converted without one, and changes no failure. -/
theorem config_eq_map (lead : Option String) (document : Document) :
    config lead document =
      Config.withPrefix (usablePrefix lead) <$> config none document := by
  have collections : collectionObject lead = fun descriptor =>
      Collection.withPrefix (usablePrefix lead) <$> collectionObject none descriptor :=
    funext (collectionObject_eq_map lead)
  unfold config
  rw [collections]
  simp only [map_mapM, map_bind, map_pure, bind_map_left]
  rfl

end Descriptor

/-! ## Declarations, validity and lines -/

theorem Declaration.constant_withPrefix (lead : Option String) (declaration : Declaration) :
    (declaration.withPrefix lead).constant = declaration.constant := by
  rcases declaration with ⟨collection, _ | locale⟩ <;> rfl

namespace Config

variable (lead : Option String) (config : Config)

/-- The declarations with a prefix are those without, one by one. -/
theorem declarations_withPrefix :
    (config.withPrefix lead).declarations =
      config.declarations.map (Declaration.withPrefix lead) := by
  have choices : (config.withPrefix lead).localeChoices = config.localeChoices := rfl
  rw [declarations, choices, declarations, List.map_flatMap]
  change (config.collections.map (Collection.withPrefix lead)).flatMap _ = _
  rw [List.flatMap_map]
  refine List.flatMap_congr fun collection _ => ?_
  rw [List.map_map]
  rfl

/-- No constant of a configuration depends on the prefix. -/
theorem constants_withPrefix : (config.withPrefix lead).constants = config.constants := by
  rw [constants, declarations_withPrefix, List.map_map]
  exact List.map_congr_left fun declaration _ => declaration.constant_withPrefix lead

end Config

theorem Validity.checkFields_withPrefix (lead : Option String) (collections : List Collection) :
    checkFields (collections.map (Collection.withPrefix lead)) = checkFields collections := by
  induction collections with
  | nil =>
      rfl
  | cons collection collections ih =>
      rw [List.map_cons, checkFields, checkFields, ih]
      rfl

/-- The check of a configuration does not see the prefix. -/
theorem Validity.check_withPrefix (lead : Option String) (config : Config) :
    check (config.withPrefix lead) = check config := by
  have fields : checkFields (config.withPrefix lead).collections =
      checkFields config.collections :=
    checkFields_withPrefix lead config.collections
  rw [check, check, Config.constants_withPrefix, fields]

theorem Config.Canonical.withPrefix
    {config : Config}
    (canonical : config.Canonical)
    (lead : Option String) :
    (config.withPrefix lead).Canonical := by
  intro collection member
  rcases List.mem_map.mp member with ⟨original, inside, rfl⟩
  exact canonical original inside

namespace Module

/-- A line with its literal taken out, if it is the line of a loader. -/
def withoutBase (line : List Char) : List Char :=
  match readBehind baseLead readLiteral line with
  | some (_, rest) => baseLead.toList ++ rest
  | none => line

/-- A text with the literal of every loader taken out. -/
def withoutBases (content : String) : String :=
  String.ofList (['\n'].intercalate ((rows content).map withoutBase))

/-- What a prefix puts in front of a folder: nothing where it is missing or empty. -/
def leadText : Option String → String
  | none => ""
  | some lead => if lead.isEmpty then "" else lead ++ "/"

/-- What a locale puts behind a folder. -/
def localeText : Option String → String
  | none => ""
  | some locale => "/" ++ locale

/-- The directory of a declaration under a prefix. -/
def directory (lead : Option String) (declaration : Declaration) : String :=
  leadText lead ++ declaration.collection.folder ++ localeText declaration.locale

/-- The path is what is taken out of the line of a loader. -/
theorem withoutBase_loader (base : String) :
    withoutBase (baseLead ++ (literal base ++ " \x7d),")).toList =
      (baseLead ++ " \x7d),").toList := by
  rw [withoutBase, readBehind_loader]
  exact String.toList_append.symm

theorem root_withPrefix (lead : Option String) (collection : Collection) :
    (collection.withPrefix (Descriptor.usablePrefix lead)).root =
      leadText lead ++ collection.folder := by
  unfold Collection.root Collection.withPrefix Descriptor.usablePrefix
  cases lead with
  | none =>
      exact (String.empty_append ..).symm
  | some lead =>
      rw [Option.filter_some, leadText]
      cases lead.isEmpty with
      | true =>
          exact (String.empty_append ..).symm
      | false =>
          rfl

/-- The directory of a declaration that was converted under a prefix. -/
theorem base_withPrefix (lead : Option String) (declaration : Declaration) :
    (declaration.withPrefix (Descriptor.usablePrefix lead)).base = directory lead declaration := by
  change (declaration.collection.withPrefix _).base declaration.locale = _
  rw [directory]
  cases declaration.locale with
  | none =>
      rw [Collection.base, root_withPrefix, localeText, String.append_empty]
  | some locale =>
      rw [Collection.base, root_withPrefix, localeText, String.append_assoc, String.append_assoc]

/-- With the literal taken out, a block does not show the prefix. -/
theorem blockLines_withPrefix (lead : Option String) (declaration : Declaration) :
    (blockLines (declaration.withPrefix lead)).map (fun line => withoutBase line.toList) =
      (blockLines declaration).map fun line => withoutBase line.toList := by
  have widgets : (declaration.withPrefix lead).collection.widgets =
      declaration.collection.widgets := rfl
  have loader : ∀ base, withoutBase ("    loader: glob(\x7b pattern: \"**/*.md\", base: "
      ++ literal base ++ " \x7d),").toList = (baseLead ++ " \x7d),").toList := by
    intro base
    rw [String.append_assoc]
    exact withoutBase_loader base
  rw [blockLines, blockLines, widgets, declaration.constant_withPrefix]
  simp only [List.map_append, List.map_cons, List.map_nil, loader]

/-- With the literals taken out, a module does not show the prefix. -/
theorem withoutBases_withPrefix
    {config : Config}
    (canonical : config.Canonical)
    (valid : Validity.check config = .ok ())
    (lead : Option String) :
    withoutBases (text (config.withPrefix lead)) = withoutBases (text config) := by
  -- The two texts have the same number of lines, so they can be compared line by line.
  have same : (lines (config.withPrefix lead)).map (fun line => withoutBase line.toList) =
      (lines config).map fun line => withoutBase line.toList := by
    simp only [lines, List.map_append, List.map_flatMap, Config.declarations_withPrefix,
      List.flatMap_map, blockLines_withPrefix, Config.constants_withPrefix]
  have validUnder := (Validity.check_withPrefix lead config).trans valid
  rw [withoutBases, withoutBases, rows_text (canonical.withPrefix lead) validUnder,
    rows_text canonical valid, List.map_map, List.map_map, List.map_append, List.map_append]
  exact congrArg (fun rest => String.ofList (['\n'].intercalate (rest ++ _))) same

end Module

/-! ## Compilation -/

namespace Compiler

/-- The valid configuration that a text writes in a format given by its name, without any prefix. -/
def plainConfig (text format : String) : Except Error Config := do
  let format ← Format.ofName format
  let config ← configOfText format textPath none text
  Validity.check config
  return config

/-- A module is made with its prefix from a configuration that was read and checked without. -/
theorem compileText_eq_map (text format : String) (lead : Option String) :
    compileText text format lead =
      (fun config => Module.text (config.withPrefix (Descriptor.usablePrefix lead))) <$>
        plainConfig text format := by
  unfold compileText plainConfig configOfText
  simp only [Descriptor.config_eq_map lead, map_bind, map_pure, bind_map_left, bind_assoc,
    Validity.check_withPrefix]
  rfl

/-- What is generated without a prefix is canonical and valid. -/
theorem of_plainConfig
    {text format : String} {config : Config}
    (read : plainConfig text format = .ok config) :
    config.Canonical ∧ Validity.check config = .ok () := by
  rcases bind_eq_ok_iff.mp read with ⟨_, _, read⟩
  rcases bind_eq_ok_iff.mp read with ⟨_, converted, read⟩
  rcases bind_eq_ok_iff.mp read with ⟨_, valid, same⟩
  cases same
  rcases bind_eq_ok_iff.mp converted with ⟨document, _, built⟩
  exact ⟨Descriptor.canonical_of_config built, valid⟩

/-- What the module of a text is under a prefix, when there is one without. -/
theorem exists_compileText
    {text format : String} {config : Config}
    (read : plainConfig text format = .ok config)
    (lead : Option String) :
    ∃ content, compileText text format lead = .ok content ∧
      Module.withoutBases content = Module.withoutBases (Module.text config) ∧
      Module.declaredNames content = config.constants ∧
      Module.bases content = config.declarations.map (Module.directory lead) := by
  rcases of_plainConfig read with ⟨canonical, valid⟩
  have canonicalUnder := canonical.withPrefix (Descriptor.usablePrefix lead)
  have validUnder := (Validity.check_withPrefix (Descriptor.usablePrefix lead) config).trans valid
  refine ⟨Module.text (config.withPrefix (Descriptor.usablePrefix lead)), ?_,
    Module.withoutBases_withPrefix canonical valid _, ?_, ?_⟩
  · rw [compileText_eq_map, read]
    rfl
  · rw [Module.declaredNames_text canonicalUnder validUnder, Config.constants_withPrefix]
  · rw [Module.bases_text canonicalUnder validUnder, Config.declarations_withPrefix, List.map_map]
    exact List.map_congr_left fun declaration _ => Module.base_withPrefix lead declaration

/-- A text that fails without a prefix fails alike with every one. -/
theorem compileText_of_error
    {text format : String} {error : Error}
    (failed : plainConfig text format = .error error)
    (lead : Option String) :
    compileText text format lead = .error error := by
  rw [compileText_eq_map, failed]
  rfl

/--
The path prefix reaches the directories of the loaders and nothing else.  Whether a
text has a module, and with which error it has none, is settled without a prefix.  If
it has one, two prefixes give modules that declare the same constants and whose texts
are equal once the literals of the directories are taken out.  Each literal holds the
directory of its declaration under the prefix, and an empty prefix is none.
-/
theorem compileText_apart_from_bases
    (text format : String)
    (first second : Option String) :
    ((∃ error,
        plainConfig text format = .error error ∧
          compileText text format first = .error error ∧
          compileText text format second = .error error) ∨
      ∃ config content other,
        plainConfig text format = .ok config ∧
          compileText text format first = .ok content ∧
          compileText text format second = .ok other ∧
          Module.withoutBases content = Module.withoutBases other ∧
          Module.declaredNames content = config.constants ∧
          Module.declaredNames other = config.constants ∧
          Module.bases content = config.declarations.map (Module.directory first) ∧
          Module.bases other = config.declarations.map (Module.directory second)) ∧
      compileText text format none = compileText text format (some "") := by
  have same : Descriptor.usablePrefix none = Descriptor.usablePrefix (some "") := by decide
  refine ⟨?_, by rw [compileText_eq_map, compileText_eq_map, same]⟩
  cases read : plainConfig text format with
  | error error =>
      exact .inl ⟨error, rfl, compileText_of_error read first, compileText_of_error read second⟩
  | ok config =>
      rcases exists_compileText read first with ⟨content, compiled, apart, names, bases⟩
      rcases exists_compileText read second with
        ⟨other, compiledOther, apartOther, namesOther, basesOther⟩
      exact .inr ⟨config, content, other, rfl, compiled, compiledOther,
        apart.trans apartOther.symm, names, namesOther, bases, basesOther⟩

end Compiler

end ContentSchema
