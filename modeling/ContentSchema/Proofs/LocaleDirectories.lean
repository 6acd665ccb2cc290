import Mathlib
import ContentSchema.Proofs.CharacterRanges
import ContentSchema.Proofs.ConstantNames
import ContentSchema.Proofs.DescriptorSteps
import ContentSchema.Proofs.Locations

/-!
# Directories of locales

Every locale of a collection has a directory of its own inside that of the collection,
named by the code of the locale.  Nothing looks at a code when a base is put together.
But a code is also the end of a constant, and the constants of a valid configuration
are distinct identifiers; so a code is a run of identifier characters, which is one
segment of a path, and no two codes are the same.

It follows that the directories of two locales have nothing in common, as texts and as
locations.  The directory of the collection may be anything, and need not be there.
-/

namespace ContentSchema

/-! ## Codes as segments -/

namespace Text

/-- The control characters, which are those of category Cc. -/
def isControl (character : Char) : Bool :=
  inRanges [(0x0, 0x1F), (0x7F, 0x9F)] character

/-- The blanks, the control characters, the dot and the slash. -/
def separatorRanges : List (Nat × Nat) :=
  [ (0x0, 0x20), (0x2E, 0x2F), (0x7F, 0xA0), (0x1680, 0x1680), (0x2000, 0x200A),
    (0x2028, 0x2029), (0x202F, 0x202F), (0x205F, 0x205F), (0x3000, 0x3000) ]

/-- A text that is one segment of a path, and one that shows in full. -/
structure IsPlainSegment (text : String) : Prop where
  filled : text ≠ ""
  noSlash : '/' ∉ text.toList
  noDot : '.' ∉ text.toList
  noBlank : ∀ character ∈ text.toList, isWhiteSpace character = false
  noControl : ∀ character ∈ text.toList, isControl character = false

theorem inRanges_separators_of_isWhiteSpace
    {character : Char}
    (blank : isWhiteSpace character = true) :
    inRanges separatorRanges character = true := by
  simp only [isWhiteSpace, Bool.or_eq_true, Bool.and_eq_true, decide_eq_true_eq, beq_iff_eq]
    at blank
  simp only [inRanges_iff, separatorRanges, List.exists_mem_cons_iff, List.not_mem_nil,
    false_and, exists_false, or_false]
  omega

theorem inRanges_separators_of_isControl
    {character : Char}
    (control : isControl character = true) :
    inRanges separatorRanges character = true := by
  simp only [isControl, inRanges_iff, List.exists_mem_cons_iff, List.not_mem_nil,
    false_and, exists_false, or_false] at control
  simp only [inRanges_iff, separatorRanges, List.exists_mem_cons_iff, List.not_mem_nil,
    false_and, exists_false, or_false]
  omega

/-- Decided by one walk along each table of letters and numbers. -/
theorem separators_apart :
    Ascends 0 separatorRanges ∧
      ∀ table ∈ [alphabeticRanges, decimalDigitRanges, letterNumberRanges, otherNumberRanges],
        without table (gaps 0 separatorRanges) = [] := by
  decide +kernel

theorem not_separator_of_isIdentifierPart
    {character : Char}
    (part : isIdentifierPart character = true) :
    inRanges separatorRanges character = false := by
  have outside : ∀ table ∈
      [alphabeticRanges, decimalDigitRanges, letterNumberRanges, otherNumberRanges],
        inRanges table character = true → inRanges separatorRanges character = false := by
    intro table listed inside
    exact not_inRanges_of_apart separators_apart.1 (separators_apart.2 table listed) inside
  simp only [isIdentifierPart, isIdentifierMark, isNumeric, isAlphabetic, Bool.or_eq_true,
    beq_iff_eq] at part
  rcases part with (letter | (digit | number) | number) | (rfl | rfl)
  · exact outside _ (by simp) letter
  · exact outside _ (by simp) digit
  · exact outside _ (by simp) number
  · exact outside _ (by simp) number
  · decide
  · decide

/-- A text of identifier characters is one segment, unless it is empty. -/
theorem isPlainSegment_of_parts
    {text : String}
    (filled : text ≠ "")
    (parts : ∀ character ∈ text.toList, isIdentifierPart character = true) :
    IsPlainSegment text := by
  have outside : ∀ character ∈ text.toList, inRanges separatorRanges character ≠ true := by
    intro character member
    rw [not_separator_of_isIdentifierPart (parts character member)]
    exact Bool.false_ne_true
  refine ⟨filled, ?_, ?_, ?_, ?_⟩
  · exact fun member => outside '/' member (by decide)
  · exact fun member => outside '.' member (by decide)
  · intro character member
    rw [Bool.eq_false_iff]
    exact fun blank => outside character member (inRanges_separators_of_isWhiteSpace blank)
  · intro character member
    rw [Bool.eq_false_iff]
    exact fun control => outside character member (inRanges_separators_of_isControl control)

end Text

open Text (IsPlainSegment)

/-! ## Paths into a directory -/

namespace Path

/-- A path leads into a directory when it goes on behind it with a slash. -/
def LeadsInto (directory path : String) : Prop :=
  (directory ++ "/").toList <+: path.toList

theorem segments_ne_nil (path : String) : segments path ≠ [] := by
  simp [segments, List.splitOn_ne_nil]

theorem segments_append_slash
    (directory : String)
    {name : String}
    (noSlash : '/' ∉ name.toList) :
    segments (directory ++ "/" ++ name) = segments directory ++ [name] := by
  have characters : (directory ++ "/" ++ name).toList =
      directory.toList ++ '/' :: name.toList := by simp
  rw [segments, characters, List.splitOn_append_cons_self, List.splitOn_eq_singleton noSlash,
    List.map_append, List.map_singleton, String.ofList_toList]
  rfl

/-- Of two names in a directory, a path leads into one only. -/
theorem LeadsInto.name_unique
    {directory first second path : String}
    (noSlash : '/' ∉ first.toList)
    (noSlashEither : '/' ∉ second.toList)
    (into : LeadsInto (directory ++ "/" ++ first) path)
    (again : LeadsInto (directory ++ "/" ++ second) path) :
    first = second := by
  rcases into with ⟨rest, split⟩
  rcases again with ⟨further, same⟩
  have whole : (directory ++ "/").toList ++ (first.toList ++ '/' :: rest) =
      (directory ++ "/").toList ++ (second.toList ++ '/' :: further) := by
    simpa using split.trans same.symm
  have behind := List.append_cancel_left whole
  have parts := congrArg (List.splitOn '/') behind
  rw [List.splitOn_append_cons_self_of_not_mem noSlash,
    List.splitOn_append_cons_self_of_not_mem noSlashEither] at parts
  exact String.toList_injective (List.cons.inj parts).1

end Path

namespace FileStore

theorem isPlainName_of_isPlainSegment
    {name : String}
    (segment : IsPlainSegment name) :
    isPlainName name = true := by
  have dotted : ∀ text : String, '.' ∈ text.toList → name ≠ text := by
    rintro text member rfl
    exact segment.noDot member
  have here := dotted "." (by decide)
  have above := dotted ".." (by decide)
  simp [isPlainName, Path.isSilent, segment.filled, here, above]

/-- Where a walk starts depends on the first segment only. -/
theorem start_of_segments
    {path first : String} {rest : List String}
    (split : Path.segments path = first :: rest) :
    start path = if first = "" then (["/"], rest) else ([], first :: rest) := by
  unfold start
  rw [split]
  split
  · rename_i absolute
    cases absolute
    rfl
  · rename_i relative
    rw [if_neg fun empty => relative rest (by rw [empty])]

/-- A name leads one step on from where the path before it leads. -/
theorem locationOf_append_slash
    (directory : String)
    {name : String}
    (segment : IsPlainSegment name) :
    locationOf (directory ++ "/" ++ name) = locationOf directory ++ [name] := by
  have plain := isPlainName_of_isPlainSegment segment
  have started : start (directory ++ "/" ++ name) =
      ((start directory).1, (start directory).2 ++ [name]) := by
    rcases List.exists_cons_of_ne_nil (Path.segments_ne_nil directory) with ⟨first, rest, split⟩
    have further := Path.segments_append_slash directory segment.noSlash
    rw [split, List.cons_append] at further
    rw [start_of_segments split, start_of_segments further]
    split <;> rfl
  rw [locationOf, started, List.foldl_append, List.foldl_cons, List.foldl_nil,
    enter_plain plain, locationOf]

end FileStore

/-! ## Two locales of a collection -/

open FileStore (locationOf)
open ContentSchema.Path (LeadsInto)

/-- The directories of two locales of a collection, each named by its code, are apart. -/
structure Collection.LoadsApart (collection : Collection) (first second : String) : Prop where
  segments : IsPlainSegment first ∧ IsPlainSegment second
  codes : first ≠ second
  /-- The code is the last segment behind the directory of the collection. -/
  base : ∀ code ∈ [first, second],
    collection.base (some code) = collection.base none ++ "/" ++ code
  bases : collection.base (some first) ≠ collection.base (some second)
  notInside : ¬ LeadsInto (collection.base (some first)) (collection.base (some second)) ∧
    ¬ LeadsInto (collection.base (some second)) (collection.base (some first))
  /-- No path, that of the other directory included, leads into both. -/
  paths : ∀ path, LeadsInto (collection.base (some first)) path →
    ¬ LeadsInto (collection.base (some second)) path
  /-- No location lies in both, wherever steps upwards in the base of the collection lead. -/
  locations : ∀ location, locationOf (collection.base (some first)) <+: location →
    ¬ locationOf (collection.base (some second)) <+: location

namespace Collection

variable {collection : Collection} {first second : String}

theorem constant_mem_constants
    {config : Config}
    (member : collection ∈ config.collections)
    {locale : String}
    (listed : locale ∈ config.locales) :
    collection.constant (some locale) ∈ config.constants := by
  refine List.mem_map.mpr ⟨⟨collection, some locale⟩, ?_, rfl⟩
  refine List.mem_flatMap.mpr ⟨collection, member, List.mem_map_of_mem ?_⟩
  rw [Config.localeChoices, if_neg (by simpa using List.ne_nil_of_mem listed)]
  exact List.mem_map_of_mem listed

/-- Where constants are distinct, so are the locales, as long as there is a collection. -/
theorem nodup_locales
    {config : Config}
    (member : collection ∈ config.collections)
    (distinct : config.constants.Nodup) :
    config.locales.Nodup := by
  by_cases none : config.locales = []
  · rw [none]
    exact List.nodup_nil
  · have constants : config.constants = config.collections.flatMap fun each =>
        config.locales.map fun locale => each.constant (some locale) := by
      rw [Config.constants, Config.declarations, List.map_flatMap, Config.localeChoices,
        if_neg (by simpa using none)]
      simp only [List.map_map]
      rfl
    rw [constants, List.nodup_flatMap] at distinct
    exact (distinct.1 collection member).of_map _

/-- A locale is a plain segment as soon as a constant with it is a name. -/
theorem isPlainSegment_of_constant
    {locale : String}
    (shape : Text.hasIdentifierShape (collection.constant (some locale)) = true)
    (filled : Text.isBlank locale = false) :
    IsPlainSegment locale := by
  apply Text.isPlainSegment_of_parts
  · rintro rfl
    rw [Text.isBlank_empty] at filled
    cases filled
  · intro character member
    apply Text.isIdentifierPart_of_mem_shape shape
    simp [constant, member]

/-- Different codes that are plain segments keep their directories apart. -/
theorem loadsApart_of_segments
    (segments : IsPlainSegment first ∧ IsPlainSegment second)
    (codes : first ≠ second) :
    collection.LoadsApart first second := by
  have apart : ∀ path, LeadsInto (collection.base (some first)) path →
      ¬ LeadsInto (collection.base (some second)) path := by
    intro path into again
    exact codes (into.name_unique segments.1.noSlash segments.2.noSlash again)
  have onwards : ∀ {directory path : String}, LeadsInto directory path →
      LeadsInto directory (path ++ "/") := by
    intro directory path into
    have longer : path.toList <+: (path ++ "/").toList := by simp
    exact List.IsPrefix.trans into longer
  have itself : ∀ directory : String, LeadsInto directory (directory ++ "/") :=
    fun directory => List.prefix_refl _
  refine ⟨segments, codes, ?_, ?_, ⟨?_, ?_⟩, apart, ?_⟩
  · intro code _
    rfl
  · intro same
    have into := itself (collection.base (some first))
    exact apart _ into (same ▸ into)
  · exact fun inside => apart _ (onwards inside) (itself _)
  · exact fun inside => apart _ (itself _) (onwards inside)
  · intro location inside again
    change locationOf (collection.root ++ "/" ++ first) <+: location at inside
    change locationOf (collection.root ++ "/" ++ second) <+: location at again
    rw [FileStore.locationOf_append_slash _ segments.1] at inside
    rw [FileStore.locationOf_append_slash _ segments.2] at again
    have same := List.prefix_of_prefix_length_le inside again (by simp)
    have equal := same.eq_of_length (by simp)
    exact codes (List.cons.inj (List.append_cancel_left equal)).1

/-- The locales at any two positions load every collection from directories apart. -/
theorem loadsApart_of_positions
    {lead : Option String} {document : Document} {config : Config}
    (built : Descriptor.config lead document = .ok config)
    (valid : Validity.check config = .ok ())
    (member : collection ∈ config.collections)
    {position other : Nat}
    (here : config.locales[position]? = some first)
    (there : config.locales[other]? = some second)
    (apart : position ≠ other) :
    collection.LoadsApart first second := by
  have segment : ∀ locale ∈ config.locales, IsPlainSegment locale := by
    intro locale listed
    rcases Descriptor.config_eq_ok_iff.mp built with ⟨_, _, _, _, _, read, rfl⟩
    exact isPlainSegment_of_constant
      (Validity.shape_of_check valid (constant_mem_constants member listed))
      (Descriptor.not_isBlank_of_locales read listed)
  rcases Validity.constants_of_check valid with ⟨_, _, distinct⟩
  apply loadsApart_of_segments
  · exact ⟨segment first (List.mem_of_getElem? here), segment second (List.mem_of_getElem? there)⟩
  · rintro rfl
    have once := nodup_locales member distinct
    rcases List.getElem?_eq_some_iff.mp here with ⟨inside, _⟩
    exact apart ((List.getElem?_inj inside once).mp (here.trans there.symm))

/-- A folder that is left upwards and ends with a slash, and a code that starts like another. -/
def guidesDocument : Document :=
  .object
    [ ("collections", .array [Descriptor.collectionOf "guides" "drafts/../guides/" []]),
      ("i18n", .object [("locales", .array [.string "en", .string "en_GB"])]) ]

/-- A collection in a folder whose path takes a detour. -/
def guides : Collection :=
  ⟨"guides", "drafts/../guides/", [], some "/site"⟩

/-- A code that is the beginning of another one does not lead into its directory. -/
theorem loadsApart_guides :
    Descriptor.config (some "/site") guidesDocument = .ok ⟨[guides], ["en", "en_GB"]⟩ ∧
      Validity.check ⟨[guides], ["en", "en_GB"]⟩ = .ok () ∧
      guides.LoadsApart "en" "en_GB" ∧
      locationOf (guides.base (some "en_GB")) = ["/", "site", "guides", "en_GB"] := by
  have built : Descriptor.config (some "/site") guidesDocument =
      .ok ⟨[guides], ["en", "en_GB"]⟩ := rfl
  have valid : Validity.check ⟨[guides], ["en", "en_GB"]⟩ = .ok () := by decide +kernel
  have here : ["en", "en_GB"][0]? = some "en" := rfl
  have there : ["en", "en_GB"][1]? = some "en_GB" := rfl
  have apart := loadsApart_of_positions built valid List.mem_cons_self here there (by decide)
  exact ⟨built, valid, apart, by decide +kernel⟩

end Collection

end ContentSchema
