import Mathlib
import ContentSchema.Proofs.LineReading

/-!
# Declared, exported and reported constants

The declarations of a configuration are a full product: every collection stands once
for each locale, and the position of a declaration is found from those of its
collection and of its locale.  What a module declares in its blocks, what its export
lists, and what is reported along with it are three traversals of this product that
give one list.  In a valid configuration the list has no repetition.  So a constant
belongs to one position only, although a name and a locale can be joined to the same
constant as another name and another locale.

A change to one collection stays at its position: it changes no locale and no other
collection, and as long as the collection keeps its name it changes no constant.
-/

namespace ContentSchema

/-! ## Positions -/

namespace Config

variable {First Second Result : Type}

/-- In the product of two lists a pair stands at the position that its parts determine. -/
theorem getElem?_product
    (pair : First → Second → Result)
    {firsts : List First} {seconds : List Second}
    {row column : Nat} {first : First} {second : Second}
    (outer : firsts[row]? = some first)
    (inner : seconds[column]? = some second) :
    (firsts.flatMap fun first => seconds.map (pair first))[row * seconds.length + column]? =
      some (pair first second) := by
  have within : column < seconds.length := (List.getElem?_eq_some_iff.mp inner).1
  induction firsts generalizing row with
  | nil =>
      cases outer
  | cons head firsts ih =>
      rw [List.flatMap_cons]
      cases row with
      | zero =>
          cases outer
          rw [Nat.zero_mul, Nat.zero_add, List.getElem?_append_left (by simpa using within),
            List.getElem?_map, inner, Option.map_some]
      | succ row =>
          -- The pairs of the first row stand in front of the position.
          have behind : (row + 1) * seconds.length + column =
              (seconds.map (pair head)).length + (row * seconds.length + column) := by
            rw [List.length_map, Nat.succ_mul]
            omega
          rw [behind, List.getElem?_append_right (Nat.le_add_right _ _), Nat.add_sub_cancel_left]
          exact ih outer

/-- A position in a product determines the positions of the parts. -/
theorem eq_of_position_eq
    {width row column otherRow otherColumn : Nat}
    (within : column < width)
    (otherWithin : otherColumn < width)
    (same : row * width + column = otherRow * width + otherColumn) :
    row = otherRow ∧ column = otherColumn := by
  have filled : 0 < width := Nat.zero_lt_of_lt within
  have rowOf : ∀ {row column}, column < width → (row * width + column) / width = row := by
    intro row column small
    rw [Nat.add_comm, Nat.add_mul_div_right _ _ filled, Nat.div_eq_of_lt small, Nat.zero_add]
  have rows : row = otherRow := by
    calc row = (row * width + column) / width := (rowOf within).symm
      _ = (otherRow * width + otherColumn) / width := by rw [same]
      _ = otherRow := rowOf otherWithin
  subst rows
  exact ⟨rfl, Nat.add_left_cancel same⟩

theorem length_localeChoices (config : Config) :
    config.localeChoices.length = max 1 config.locales.length := by
  unfold localeChoices
  cases config.locales with
  | nil =>
      rfl
  | cons locale locales =>
      simp

/-- A collection is declared once for each locale, and once if there are none. -/
theorem length_declarations (config : Config) :
    config.declarations.length = config.collections.length * max 1 config.locales.length := by
  rw [← length_localeChoices, declarations, List.length_flatMap]
  simp only [List.length_map, List.map_const', List.sum_replicate, smul_eq_mul]

/-- A declaration is found from the positions of its collection and of its locale. -/
theorem getElem?_declarations
    {config : Config}
    {row column : Nat} {collection : Collection} {locale : Option String}
    (outer : config.collections[row]? = some collection)
    (inner : config.localeChoices[column]? = some locale) :
    config.declarations[row * config.localeChoices.length + column]? =
      some ⟨collection, locale⟩ :=
  getElem?_product Declaration.mk outer inner

theorem getElem?_constants
    {config : Config}
    {row column : Nat} {collection : Collection} {locale : Option String}
    (outer : config.collections[row]? = some collection)
    (inner : config.localeChoices[column]? = some locale) :
    config.constants[row * config.localeChoices.length + column]? =
      some (collection.constant locale) := by
  rw [constants, List.getElem?_map, getElem?_declarations outer inner]
  rfl

/-- The declarations of a configuration, by their positions. -/
structure DeclaredByPosition (config : Config) : Prop where
  count : config.declarations.length = config.collections.length * max 1 config.locales.length
  /-- Without locales there is one declaration for each collection. -/
  single : config.locales = [] →
    ∀ {row : Nat} {collection : Collection},
      config.collections[row]? = some collection →
        config.declarations[row]? = some ⟨collection, none⟩
  /-- With locales each collection has a declaration for each of them. -/
  each : ∀ {row column : Nat} {collection : Collection} {locale : String},
    config.collections[row]? = some collection →
      config.locales[column]? = some locale →
        config.declarations[row * config.locales.length + column]? =
          some ⟨collection, some locale⟩

/-- Declarations are found by position, in every configuration. -/
theorem declaredByPosition (config : Config) : config.DeclaredByPosition where
  count := length_declarations config
  single := by
    intro none row collection outer
    have choices : config.localeChoices = [Option.none] := by
      rw [localeChoices, none]
      rfl
    have inner : config.localeChoices[0]? = some Option.none := by
      rw [choices]
      rfl
    simpa [choices] using getElem?_declarations outer inner
  each := by
    intro row column collection locale outer inner
    have filled : config.locales.isEmpty = false := by
      rw [List.isEmpty_eq_false_iff]
      rintro none
      rw [none] at inner
      cases inner
    have choices : config.localeChoices = config.locales.map some := by
      rw [localeChoices, filled]
      rfl
    have chosen : config.localeChoices[column]? = some (some locale) := by
      rw [choices, List.getElem?_map, inner]
      rfl
    simpa [choices] using getElem?_declarations outer chosen

/-- Without repetition a constant belongs to one position only. -/
theorem position_of_constant
    {config : Config}
    (distinct : config.constants.Nodup)
    {row column otherRow otherColumn : Nat}
    {collection otherCollection : Collection} {locale otherLocale : Option String}
    (outer : config.collections[row]? = some collection)
    (inner : config.localeChoices[column]? = some locale)
    (otherOuter : config.collections[otherRow]? = some otherCollection)
    (otherInner : config.localeChoices[otherColumn]? = some otherLocale)
    (same : collection.constant locale = otherCollection.constant otherLocale) :
    row = otherRow ∧ column = otherColumn := by
  have here := getElem?_constants outer inner
  have there := getElem?_constants otherOuter otherInner
  rw [← same, ← here] at there
  have inside := (List.getElem?_eq_some_iff.mp here).1
  have position := (List.getElem?_inj inside distinct).mp there.symm
  exact eq_of_position_eq (List.getElem?_eq_some_iff.mp inner).1
    (List.getElem?_eq_some_iff.mp otherInner).1 position

/-! ## Changing one collection -/

theorem map_modify_of_eq
    {change : First → First} {read : First → Second}
    (kept : ∀ value, read (change value) = read value)
    (values : List First)
    (position : Nat) :
    (values.modify position change).map read = values.map read := by
  apply List.ext_getElem?
  intro row
  rw [List.getElem?_map, List.getElem?_map, List.getElem?_modify]
  cases values[row]? with
  | none =>
      rfl
  | some value =>
      simp only [Option.map_some, Option.map_eq_map]
      split
      · rw [kept]
      · rfl

/-- The constants are those of the collections, one collection after the other. -/
theorem constants_eq_flatten (config : Config) :
    config.constants =
      (config.collections.map fun collection =>
        config.localeChoices.map collection.constant).flatten := by
  rw [constants, declarations, List.map_flatMap, List.flatMap_def]
  simp only [List.map_map]
  rfl

/-- A change of the collection at a position, by what it leaves alone. -/
structure ChangesOnly (config : Config) (position : Nat) (change : Collection → Collection) :
    Prop where
  locales : (config.modifyCollection position change).locales = config.locales
  count : (config.modifyCollection position change).collections.length =
    config.collections.length
  /-- The declarations of all other collections stay where they are, as they are. -/
  declared : ∀ {row column : Nat} {collection : Collection} {locale : Option String},
    config.collections[row]? = some collection →
      config.localeChoices[column]? = some locale →
        (config.modifyCollection position change).declarations[
            row * config.localeChoices.length + column]? =
          some ⟨if position = row then change collection else collection, locale⟩
  /-- Without a new name nothing is declared, exported or reported under another one. -/
  constants : (∀ collection, (change collection).name = collection.name) →
    (config.modifyCollection position change).constants = config.constants

/-- What is modified at one position is modified nowhere else. -/
theorem changesOnly_modifyCollection
    (config : Config)
    (position : Nat)
    (change : Collection → Collection) :
    config.ChangesOnly position change where
  locales := rfl
  count := List.length_modify _ _ _
  declared := by
    intro row column collection locale outer inner
    have changed : (config.modifyCollection position change).collections[row]? =
        some (if position = row then change collection else collection) := by
      rw [modifyCollection, List.getElem?_modify, outer]
      rfl
    exact getElem?_declarations changed inner
  constants := by
    intro kept
    have named : ∀ collection,
        (config.localeChoices.map (change collection).constant) =
          config.localeChoices.map collection.constant := by
      intro collection
      refine List.map_congr_left fun locale _ => ?_
      cases locale <;> simp only [Collection.constant, kept]
    rw [constants_eq_flatten, constants_eq_flatten]
    exact congrArg List.flatten (map_modify_of_eq named config.collections position)

end Config

/-! ## One list in three places -/

namespace Module

/-- The constants of a module agree in its blocks, in its export and in its report. -/
structure ConstantsAgree (config : Config) : Prop where
  declared : declaredNames (ofConfig config).content = (ofConfig config).constants
  exported : exportedNames (ofConfig config).content = (ofConfig config).constants
  distinct : (ofConfig config).constants.Nodup
  /-- Each constant belongs to one collection and to one locale, as positions. -/
  apart : ∀ {row column otherRow otherColumn : Nat}
    {collection otherCollection : Collection} {locale otherLocale : Option String},
    config.collections[row]? = some collection →
      config.localeChoices[column]? = some locale →
        config.collections[otherRow]? = some otherCollection →
          config.localeChoices[otherColumn]? = some otherLocale →
            collection.constant locale = otherCollection.constant otherLocale →
              row = otherRow ∧ column = otherColumn

/--
The declarations of every configuration are the product of its collections and its
locales, in order.  When the configuration was converted from a document and is
valid, the constants of the declarations are declared, exported and reported as one
list without repetition, and no two positions share a constant.
-/
theorem constants_agree (config : Config) :
    config.DeclaredByPosition ∧
      ∀ lead document,
        Descriptor.config lead document = .ok config →
          Validity.check config = .ok () →
            ConstantsAgree config := by
  refine ⟨config.declaredByPosition, ?_⟩
  intro lead document built valid
  have canonical := Descriptor.canonical_of_config built
  rcases Validity.constants_of_check valid with ⟨_, _, distinct⟩
  exact ⟨declaredNames_text canonical valid, exportedNames_text canonical valid, distinct,
    Config.position_of_constant distinct⟩

/-- Two collections in two locales, with the separator in a name and in a code. -/
def newsDocument : Document :=
  .object
    [ ("collections", .array
        [ Descriptor.collectionOf "news_en" "archive" [],
          Descriptor.collectionOf "news" "content" [] ]),
      ("i18n", .object [("locales", .array [.string "fr", .string "en_gb"])]) ]

/-- The configuration that the news document is converted to. -/
def newsConfig : Config :=
  ⟨[⟨"news_en", "archive", [], none⟩, ⟨"news", "content", [], none⟩], ["fr", "en_gb"]⟩

theorem constants_agree_news :
    Descriptor.config none newsDocument = .ok newsConfig ∧
      Validity.check newsConfig = .ok () ∧
      newsConfig.constants = ["news_en_fr", "news_en_en_gb", "news_fr", "news_en_gb"] ∧
      ConstantsAgree newsConfig := by
  have built : Descriptor.config none newsDocument = .ok newsConfig := rfl
  have valid : Validity.check newsConfig = .ok () := by decide +kernel
  exact ⟨built, valid, by decide, (constants_agree newsConfig).2 none newsDocument built valid⟩

/-- With the locale `gb` two positions would share a constant, so the check refuses it. -/
example : Validity.check { newsConfig with locales := ["gb", "en_gb"] } =
    .error (.duplicateConstant "news_en_gb") := by
  decide +kernel

end Module

end ContentSchema
