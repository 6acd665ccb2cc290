import Mathlib
import ContentSchema.Proofs.DescriptorSteps

/-!
# The grammar of accepted documents

Which documents describe a configuration is a grammar of its own: it speaks of
members and their values only, counts the lists around a field upward from
nought, and knows neither the order of the checks nor their errors.  The
conversion accepts a document exactly when the grammar does.

The conversion counts downward from the limit.  The equivalence for fields is
therefore an induction on the lists that are left, in which a field with `k`
lists around it has `32 - k` left; beyond the limit both sides only know leaves.
-/

namespace ContentSchema

open Text (isBlank)
open Traversal (mapM_eq_ok_iff exists_mapM_eq_ok_iff exists_mapM_eq_some_iff)

/-! ## The grammar -/

namespace DocumentGrammar

/-- A document that has members. -/
def IsObject (document : Document) : Prop :=
  ∃ members, document = .object members

/-- A text that is not blank. -/
def IsText (value : Document) : Prop :=
  ∃ text, value = .string text ∧ isBlank text = false

/-- A property that has to be a text and not a blank one. -/
def HasText (descriptor : Document) (property : String) : Prop :=
  ∃ value, descriptor.member? property = some value ∧ IsText value

/-- A property that is a truth value if it is there at all. -/
def HasFlag (descriptor : Document) (property : String) : Prop :=
  descriptor.member? property = none ∨
    ∃ value, descriptor.member? property = some (.boolean value)

/-- A text, or an object whose member `value` is a text. -/
def IsOption (option : Document) : Prop :=
  (∃ text, option = .string text) ∨
    (IsObject option ∧
      ∃ text, option.member? "value" = some (.string text))

/-- What every field of a kind has, whatever else the kind needs. -/
structure IsNamed (descriptor : Document) (tag : Tag) : Prop where
  object : IsObject descriptor
  name : HasText descriptor "name"
  widget : descriptor.member? "widget" = some (.string tag.text)
  required : HasFlag descriptor "required"

/-- A field with so many lists around it. -/
inductive IsField : Nat → Document → Prop
  | scalar {depth descriptor kind}
      (named : IsNamed descriptor (.scalar kind)) :
      IsField depth descriptor
  | select {depth descriptor options}
      (named : IsNamed descriptor .select)
      (present : descriptor.member? "options" = some (.array options))
      (filled : options ≠ [])
      (usable : ∀ option ∈ options, IsOption option) :
      IsField depth descriptor
  | relation {depth descriptor}
      (named : IsNamed descriptor .relation)
      (target : HasText descriptor "collection")
      (multiple : HasFlag descriptor "multiple") :
      IsField depth descriptor
  | listOfOne {depth descriptor item}
      (named : IsNamed descriptor .list)
      (shallow : depth < 32)
      (present : descriptor.member? "field" = some item)
      (object : IsObject item)
      (accepted : IsField (depth + 1) item) :
      IsField depth descriptor
  | listOfSeveral {depth descriptor items}
      (named : IsNamed descriptor .list)
      (shallow : depth < 32)
      (several : ∀ item, descriptor.member? "field" = some item → ¬ IsObject item)
      (present : descriptor.member? "fields" = some (.array items))
      (filled : items ≠ [])
      (accepted : ∀ item ∈ items, IsField (depth + 1) item) :
      IsField depth descriptor

/-- A collection with a name, a folder and accepted fields. -/
structure IsCollection (descriptor : Document) : Prop where
  object : IsObject descriptor
  name : HasText descriptor "name"
  folder : HasText descriptor "folder"
  fields : ∃ fields, descriptor.member? "fields" = some (.array fields) ∧
    ∀ field ∈ fields, IsField 0 field

/-- Locales, where they are given, are null or a list of texts. -/
def HasLocales (document : Document) : Prop :=
  ∀ settings locales,
    document.member? "i18n" = some settings →
    settings.member? "locales" = some locales →
      locales = .null ∨
        ∃ values, locales = .array values ∧ ∀ value ∈ values, IsText value

/-- A whole document that describes a configuration. -/
structure IsConfiguration (document : Document) : Prop where
  object : IsObject document
  collections : ∃ descriptors,
    document.member? "collections" = some (.array descriptors) ∧
      ∀ descriptor ∈ descriptors, IsCollection descriptor
  locales : HasLocales document

end DocumentGrammar

namespace Descriptor

open DocumentGrammar

/-! ## Single properties -/

theorem exists_usableText?_eq_some_iff {value : Document} :
    (∃ text, usableText? value = some text) ↔ IsText value := by
  simp only [usableText?_eq_some_iff, IsText]

theorem exists_requiredText_eq_ok_iff
    {descriptor : Document} {property context : String} :
    (∃ text, requiredText descriptor property context = .ok text) ↔
      HasText descriptor property := by
  simp only [requiredText_eq_ok_iff, HasText, IsText]
  constructor
  · rintro ⟨text, present, filled⟩
    exact ⟨_, present, text, rfl, filled⟩
  · rintro ⟨_, present, text, rfl, filled⟩
    exact ⟨text, present, filled⟩

theorem exists_flag_eq_ok_iff
    {descriptor : Document} {property context : String} {default : Bool} :
    (∃ value, flag descriptor property context default = .ok value) ↔
      HasFlag descriptor property := by
  simp only [flag_eq_ok_iff, HasFlag]
  constructor
  · rintro ⟨value, ⟨missing, _⟩ | present⟩
    · exact .inl missing
    · exact .inr ⟨value, present⟩
  · rintro (missing | ⟨value, present⟩)
    · exact ⟨default, .inl ⟨missing, rfl⟩⟩
    · exact ⟨value, .inr present⟩

theorem isObject_of_member?
    {descriptor value : Document} {property : String}
    (present : descriptor.member? property = some value) :
    IsObject descriptor := by
  cases descriptor with
  | object members =>
      exact ⟨members, rfl⟩
  | _ =>
      cases present

theorem exists_optionText?_eq_some_iff {option : Document} :
    (∃ text, optionText? option = some text) ↔ IsOption option := by
  simp only [optionText?_eq_some_iff, IsOption]
  constructor
  · rintro ⟨text, same | present⟩
    · exact .inl ⟨text, same⟩
    · exact .inr ⟨isObject_of_member? present, text, present⟩
  · rintro (⟨text, same⟩ | ⟨_, text, present⟩)
    · exact ⟨text, .inl same⟩
    · exact ⟨text, .inr present⟩

/-- The heading of a field succeeds exactly when the grammar's does. -/
theorem exists_heading_iff {descriptor : Document} {tag : Tag} :
    (∃ name required, Heading descriptor name tag required) ↔
      IsNamed descriptor tag := by
  constructor
  · rintro ⟨name, required, heading⟩
    have present := (requiredText_eq_ok_iff.mp heading.named).1
    exact
      ⟨isObject_of_member? present,
        exists_requiredText_eq_ok_iff.mp ⟨name, heading.named⟩,
        widgetTag_eq_ok_iff.mp heading.tagged,
        exists_flag_eq_ok_iff.mp ⟨required, heading.flagged⟩⟩
  · rintro ⟨_, named, tagged, flagged⟩
    rcases exists_requiredText_eq_ok_iff.mpr named with ⟨name, named⟩
    rcases exists_flag_eq_ok_iff.mpr flagged with ⟨required, flagged⟩
    exact ⟨name, required, named, widgetTag_eq_ok_iff.mpr tagged, flagged⟩

/-! ## Fields -/

/-- A choice succeeds exactly when all its options are usable. -/
theorem exists_selectLeaf_eq_ok_iff {descriptor : Document} {name : String} :
    (∃ leaf, selectLeaf descriptor name = .ok leaf) ↔
      ∃ options,
        descriptor.member? "options" = some (.array options) ∧
          options ≠ [] ∧
          ∀ option ∈ options, IsOption option := by
  simp only [selectLeaf_eq_ok_iff, ← exists_optionText?_eq_some_iff]
  constructor
  · rintro ⟨_, options, texts, present, filled, converted, _⟩
    exact ⟨options, present, filled, exists_mapM_eq_some_iff.mp ⟨texts, converted⟩⟩
  · rintro ⟨options, present, filled, usable⟩
    rcases exists_mapM_eq_some_iff.mpr usable with ⟨texts, converted⟩
    exact ⟨_, options, texts, present, filled, converted, rfl⟩

theorem exists_relationLeaf_eq_ok_iff {descriptor : Document} {name : String} :
    (∃ leaf, relationLeaf descriptor name = .ok leaf) ↔
      HasText descriptor "collection" ∧ HasFlag descriptor "multiple" := by
  simp only [relationLeaf_eq_ok_iff]
  constructor
  · rintro ⟨_, collection, multiple, present, filled, flagged, _⟩
    exact
      ⟨⟨_, present, collection, rfl, filled⟩,
        exists_flag_eq_ok_iff.mp ⟨multiple, flagged⟩⟩
  · rintro ⟨⟨_, present, collection, rfl, filled⟩, flagged⟩
    rcases exists_flag_eq_ok_iff.mpr flagged with ⟨multiple, flagged⟩
    exact ⟨_, collection, multiple, present, filled, flagged, rfl⟩

/-- The fields of a list come from `field`, if that is an object, or from `fields`. -/
theorem listItems_eq_ok_iff_isObject
    {descriptor : Document} {name : String} {items : List Document} :
    listItems descriptor name = .ok items ↔
      (∃ item, descriptor.member? "field" = some item ∧ IsObject item ∧
        items = [item]) ∨
      ((∀ item, descriptor.member? "field" = some item → ¬ IsObject item) ∧
        descriptor.member? "fields" = some (.array items) ∧
        items ≠ []) := by
  rw [listItems_eq_ok_iff]
  constructor
  · rintro (⟨members, present, same⟩ | ⟨several, present, filled⟩)
    · exact .inl ⟨_, present, ⟨members, rfl⟩, same⟩
    · refine .inr ⟨?_, present, filled⟩
      rintro _ single ⟨members, rfl⟩
      exact several members single
  · rintro (⟨_, present, ⟨members, rfl⟩, same⟩ | ⟨several, present, filled⟩)
    · exact .inl ⟨members, present, same⟩
    · exact .inr ⟨fun members single => several _ single ⟨members, rfl⟩,
        present, filled⟩

/--
The step of the induction for fields: conversion agrees with the grammar at one
depth when it agrees one level deeper, as long as lists are still allowed.
-/
theorem exists_fieldStep_iff
    {lists depth : Nat}
    (left : 32 - depth = lists)
    (deeper : ∀ further, lists = further + 1 → ∀ item,
      (∃ made, widgetWithin further item = .ok made) ↔ IsField (depth + 1) item)
    (descriptor : Document) :
    (∃ made, FieldStep lists descriptor made) ↔ IsField depth descriptor := by
  constructor
  · rintro ⟨_, step⟩
    cases step with
    | scalar heading =>
        exact .scalar (exists_heading_iff.mp ⟨_, _, heading⟩)
    | select heading choice =>
        rcases exists_selectLeaf_eq_ok_iff.mp ⟨_, choice⟩ with
          ⟨options, present, filled, usable⟩
        exact .select (exists_heading_iff.mp ⟨_, _, heading⟩) present filled usable
    | relation heading target =>
        rcases exists_relationLeaf_eq_ok_iff.mp ⟨_, target⟩ with ⟨target, multiple⟩
        exact .relation (exists_heading_iff.mp ⟨_, _, heading⟩) target multiple
    | @list further _ _ _ fields items heading inside converted =>
        have named := exists_heading_iff.mp ⟨_, _, heading⟩
        have shallow : depth < 32 := by omega
        have accepted : ∀ field ∈ fields, IsField (depth + 1) field := by
          have each := exists_mapM_eq_ok_iff.mp
            ⟨items, mapM_eq_ok_iff.mpr converted⟩
          exact fun field member => (deeper further rfl field).mp (each field member)
        rcases listItems_eq_ok_iff_isObject.mp inside with
          ⟨item, present, object, rfl⟩ | ⟨several, present, filled⟩
        · exact .listOfOne named shallow present object
            (accepted item (List.mem_singleton.mpr rfl))
        · exact .listOfSeveral named shallow several present filled accepted
  · have convert : ∀ {name required items},
        depth < 32 →
        Heading descriptor name .list required →
        listItems descriptor name = .ok items →
        (∀ item ∈ items, IsField (depth + 1) item) →
        ∃ made, FieldStep lists descriptor made := by
      intro name required items shallow heading inside accepted
      rcases Nat.exists_eq_add_of_lt shallow with ⟨further, limit⟩
      have enough : lists = further + 1 := by omega
      subst enough
      rcases exists_mapM_eq_ok_iff.mpr
          (fun item member => (deeper further rfl item).mpr (accepted item member)) with
        ⟨made, converted⟩
      exact ⟨_, .list heading inside (mapM_eq_ok_iff.mp converted)⟩
    intro accepted
    cases accepted with
    | scalar named =>
        rcases exists_heading_iff.mpr named with ⟨name, required, heading⟩
        exact ⟨_, .scalar heading⟩
    | select named present filled usable =>
        rcases exists_heading_iff.mpr named with ⟨name, required, heading⟩
        rcases exists_selectLeaf_eq_ok_iff.mpr ⟨_, present, filled, usable⟩ with
          ⟨leaf, choice⟩
        exact ⟨_, .select heading choice⟩
    | relation named target multiple =>
        rcases exists_heading_iff.mpr named with ⟨name, required, heading⟩
        rcases exists_relationLeaf_eq_ok_iff.mpr ⟨target, multiple⟩ with
          ⟨leaf, target⟩
        exact ⟨_, .relation heading target⟩
    | listOfOne named shallow present object accepted =>
        rcases exists_heading_iff.mpr named with ⟨name, required, heading⟩
        refine convert shallow heading
          (listItems_eq_ok_iff_isObject.mpr (.inl ⟨_, present, object, rfl⟩)) ?_
        intro item member
        rw [List.mem_singleton.mp member]
        exact accepted
    | listOfSeveral named shallow several present filled accepted =>
        rcases exists_heading_iff.mpr named with ⟨name, required, heading⟩
        exact convert shallow heading
          (listItems_eq_ok_iff_isObject.mpr (.inr ⟨several, present, filled⟩)) accepted

/-- A field is accepted at a depth exactly when the grammar accepts it there. -/
theorem exists_widgetWithin_eq_ok_iff (depth : Nat) (descriptor : Document) :
    (∃ made, widgetWithin (listLimit - depth) descriptor = .ok made) ↔
      IsField depth descriptor := by
  have agree : ∀ lists depth, 32 - depth = lists → ∀ descriptor,
      (∃ made, widgetWithin lists descriptor = .ok made) ↔
        IsField depth descriptor := by
    intro lists
    induction lists with
    | zero =>
        intro depth left descriptor
        simp only [widgetWithin_eq_ok_iff]
        exact exists_fieldStep_iff left (fun _ none => by cases none) descriptor
    | succ lists ih =>
        intro depth left descriptor
        simp only [widgetWithin_eq_ok_iff]
        refine exists_fieldStep_iff left ?_ descriptor
        intro further same item
        cases same
        exact ih (depth + 1) (by omega) item
  exact agree _ depth rfl descriptor

/-! ## Collections and whole documents -/

/-- A collection is accepted when it is one in the grammar. -/
theorem exists_collectionObject_eq_ok_iff
    {lead : Option String} {descriptor : Document} :
    (∃ made, collectionObject lead descriptor = .ok made) ↔
      IsCollection descriptor := by
  have fieldIff : ∀ field,
      (∃ made, widget field = .ok made) ↔ IsField 0 field :=
    exists_widgetWithin_eq_ok_iff 0
  simp only [collectionObject_eq_ok_iff, collection_eq_ok_iff]
  constructor
  · rintro ⟨_, object, name, folder, fields, widgets, named, placed, present,
      converted, _⟩
    have each := exists_mapM_eq_ok_iff.mp ⟨widgets, converted⟩
    exact
      ⟨object,
        exists_requiredText_eq_ok_iff.mp ⟨name, named⟩,
        exists_requiredText_eq_ok_iff.mp ⟨folder, placed⟩,
        fields, present, fun field member => (fieldIff field).mp (each field member)⟩
  · rintro ⟨object, named, placed, fields, present, accepted⟩
    rcases exists_requiredText_eq_ok_iff.mpr named with ⟨name, named⟩
    rcases exists_requiredText_eq_ok_iff.mpr placed with ⟨folder, placed⟩
    rcases exists_mapM_eq_ok_iff.mpr
        (fun field member => (fieldIff field).mpr (accepted field member)) with
      ⟨widgets, converted⟩
    exact ⟨_, object, name, folder, fields, widgets, named, placed, present,
      converted, rfl⟩

/-- `HasLocales` looks at the same value as the conversion. -/
theorem hasLocales_iff {document : Document} :
    HasLocales document ↔
      ∀ value,
        ((document.member? "i18n").bind fun settings =>
          settings.member? "locales") = some value →
        value = .null ∨
          ∃ values, value = .array values ∧ ∀ value ∈ values, IsText value := by
  simp only [HasLocales, Option.bind_eq_some_iff]
  constructor
  · rintro localized value ⟨settings, present, given⟩
    exact localized settings value present given
  · intro localized settings value present given
    exact localized value ⟨settings, present, given⟩

/-- Locales are accepted when they are as the grammar has them. -/
theorem exists_locales_eq_ok_iff {document : Document} :
    (∃ codes, locales document = .ok codes) ↔ HasLocales document := by
  rw [hasLocales_iff]
  unfold locales
  cases (document.member? "i18n").bind fun settings =>
      settings.member? "locales" with
  | none =>
      simp
  | some value =>
      cases value with
      | null =>
          simp
      | array values =>
          have usable : (∃ codes, values.mapM usableText? = some codes) ↔
              ∀ value ∈ values, IsText value := by
            rw [exists_mapM_eq_some_iff]
            simp only [exists_usableText?_eq_some_iff]
          cases converted : values.mapM usableText? with
          | none =>
              rw [converted] at usable
              simpa [converted] using usable
          | some codes =>
              rw [converted] at usable
              simpa [converted] using usable
      | _ =>
          simp

/--
The conversion accepts exactly the grammar: a field with so many lists around it,
and a whole document whatever the lead in front of its folders.
-/
theorem accepts_exactly_grammar :
    (∀ depth descriptor,
      (∃ made, widgetWithin (listLimit - depth) descriptor = .ok made) ↔
        IsField depth descriptor) ∧
    ∀ lead document,
      (∃ made, config lead document = .ok made) ↔ IsConfiguration document := by
  refine ⟨exists_widgetWithin_eq_ok_iff, ?_⟩
  intro lead document
  simp only [config_eq_ok_iff, collectionDescriptors_eq_ok_iff]
  constructor
  · rintro ⟨_, descriptors, collections, codes, ⟨object, present⟩, converted,
      read, _⟩
    have each := exists_mapM_eq_ok_iff.mp ⟨collections, converted⟩
    exact
      ⟨object,
        ⟨descriptors, present, fun descriptor member =>
          exists_collectionObject_eq_ok_iff.mp (each descriptor member)⟩,
        exists_locales_eq_ok_iff.mp ⟨codes, read⟩⟩
  · rintro ⟨object, ⟨descriptors, present, accepted⟩, localized⟩
    rcases exists_mapM_eq_ok_iff.mpr
        (fun descriptor member =>
          exists_collectionObject_eq_ok_iff.mpr (accepted descriptor member)) with
      ⟨collections, converted⟩
    rcases exists_locales_eq_ok_iff.mpr localized with ⟨codes, read⟩
    exact ⟨_, descriptors, collections, codes, ⟨object, present⟩, converted,
      read, rfl⟩

end Descriptor

end ContentSchema
