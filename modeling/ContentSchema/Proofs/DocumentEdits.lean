import Mathlib
import ContentSchema.Proofs.FaultLocality

/-!
# Edits that keep the meaning of a document

A document says more than its configuration: it may hold properties that the
conversion never reads, and some things can be written in two ways.  An edit changes
a document in one place in one such respect, at any depth.  Documents that a chain of
edits connects, in either direction, have the same configuration; or they have errors
of one kind about one property, which may differ in how they describe the context.

Edits of options, fields, collections and documents are relations of their own.  That
of fields is the recursive one, and what an edit keeps is shown along it: the name,
the kind, the flags and what the kind needs stay, up to the meaning of the items of a
list.
-/

namespace ContentSchema

open Traversal (ok_bind)

/-! ## Edits -/

namespace DocumentGrammar

/-- Two objects with the same members, those with certain keys left aside. -/
structure AgreeExcept (keys : List String) (first second : Document) : Prop where
  firstObject : IsObject first
  secondObject : IsObject second
  same : ∀ key, key ∉ keys → second.member? key = first.member? key

/-- A descriptor names the kind of its widget by the text of a tag. -/
def HasKind (descriptor : Document) (tag : Tag) : Prop :=
  descriptor.member? "widget" = some (.string tag.text)

/-- The properties of a field that the conversion reads. -/
inductive IsRead (descriptor : Document) : String → Prop
  | name :
      IsRead descriptor "name"
  | widget :
      IsRead descriptor "widget"
  | required :
      IsRead descriptor "required"
  | options
      (kind : HasKind descriptor .select) :
      IsRead descriptor "options"
  | collection
      (kind : HasKind descriptor .relation) :
      IsRead descriptor "collection"
  | multiple
      (kind : HasKind descriptor .relation) :
      IsRead descriptor "multiple"
  | field
      (kind : HasKind descriptor .list) :
      IsRead descriptor "field"
  | fields
      (kind : HasKind descriptor .list)
      (several : ∀ item, descriptor.member? "field" = some item → ¬ IsObject item) :
      IsRead descriptor "fields"

/-- An option with another unread property, or with its text put into an object. -/
inductive OptionEdit : Document → Document → Prop
  | unread {option edited key}
      (unread : key ≠ "value")
      (rest : AgreeExcept [key] option edited) :
      OptionEdit option edited
  | object {text edited}
      (value : edited.member? "value" = some (.string text)) :
      OptionEdit (.string text) edited

/-- A field that is edited in one place, in itself or in a field inside it. -/
inductive FieldEdit : Document → Document → Prop
  | unread {descriptor edited key}
      (unread : ¬ IsRead descriptor key)
      (rest : AgreeExcept [key] descriptor edited) :
      FieldEdit descriptor edited
  | required {descriptor edited}
      (absent : descriptor.member? "required" = none)
      (explicit : edited.member? "required" = some (.boolean true))
      (rest : AgreeExcept ["required"] descriptor edited) :
      FieldEdit descriptor edited
  | multiple {descriptor edited}
      (kind : HasKind descriptor .relation)
      (absent : descriptor.member? "multiple" = none)
      (explicit : edited.member? "multiple" = some (.boolean false))
      (rest : AgreeExcept ["multiple"] descriptor edited) :
      FieldEdit descriptor edited
  | option {descriptor edited before option after rewritten}
      (kind : HasKind descriptor .select)
      (present : descriptor.member? "options" = some (.array (before ++ option :: after)))
      (replaced : edited.member? "options" = some (.array (before ++ rewritten :: after)))
      (inside : OptionEdit option rewritten)
      (rest : AgreeExcept ["options"] descriptor edited) :
      FieldEdit descriptor edited
  | listed {descriptor edited item}
      (kind : HasKind descriptor .list)
      (present : descriptor.member? "field" = some item)
      (object : IsObject item)
      (absent : edited.member? "field" = none)
      (replaced : edited.member? "fields" = some (.array [item]))
      (rest : AgreeExcept ["field", "fields"] descriptor edited) :
      FieldEdit descriptor edited
  | single {descriptor edited item rewritten}
      (kind : HasKind descriptor .list)
      (present : descriptor.member? "field" = some item)
      (replaced : edited.member? "field" = some rewritten)
      (inside : FieldEdit item rewritten)
      (rest : AgreeExcept ["field"] descriptor edited) :
      FieldEdit descriptor edited
  | several {descriptor edited before item after rewritten}
      (kind : HasKind descriptor .list)
      (present : descriptor.member? "fields" = some (.array (before ++ item :: after)))
      (replaced : edited.member? "fields" = some (.array (before ++ rewritten :: after)))
      (inside : FieldEdit item rewritten)
      (rest : AgreeExcept ["fields"] descriptor edited) :
      FieldEdit descriptor edited

/-- A collection that is edited in one place. -/
inductive CollectionEdit : Document → Document → Prop
  | unread {descriptor edited key}
      (unread : key ∉ ["name", "folder", "fields"])
      (rest : AgreeExcept [key] descriptor edited) :
      CollectionEdit descriptor edited
  | field {descriptor edited before field after rewritten}
      (present : descriptor.member? "fields" = some (.array (before ++ field :: after)))
      (replaced : edited.member? "fields" = some (.array (before ++ rewritten :: after)))
      (inside : FieldEdit field rewritten)
      (rest : AgreeExcept ["fields"] descriptor edited) :
      CollectionEdit descriptor edited

/-- A document that is edited in one place. -/
inductive DocumentEdit : Document → Document → Prop
  | unread {document edited key}
      (unread : key ∉ ["collections", "i18n"])
      (rest : AgreeExcept [key] document edited) :
      DocumentEdit document edited
  | settings {document edited settings rewritten key}
      (present : document.member? "i18n" = some settings)
      (replaced : edited.member? "i18n" = some rewritten)
      (unread : key ≠ "locales")
      (inside : AgreeExcept [key] settings rewritten)
      (rest : AgreeExcept ["i18n"] document edited) :
      DocumentEdit document edited
  | unlocalized {document edited settings}
      (absent : document.member? "i18n" = none)
      (added : edited.member? "i18n" = some settings)
      (object : IsObject settings)
      (without : settings.member? "locales" = none ∨
        settings.member? "locales" = some .null)
      (rest : AgreeExcept ["i18n"] document edited) :
      DocumentEdit document edited
  | collection {document edited before descriptor after rewritten}
      (present : document.member? "collections" =
        some (.array (before ++ descriptor :: after)))
      (replaced : edited.member? "collections" =
        some (.array (before ++ rewritten :: after)))
      (inside : CollectionEdit descriptor rewritten)
      (rest : AgreeExcept ["collections"] document edited) :
      DocumentEdit document edited

/-- Documents that edits connect, any number of them and in either direction. -/
def Synonymous : Document → Document → Prop :=
  Relation.EqvGen DocumentEdit

theorem FieldEdit.isObject
    {descriptor edited : Document}
    (edit : FieldEdit descriptor edited) :
    IsObject descriptor ∧ IsObject edited := by
  cases edit with
  | unread _ rest => exact ⟨rest.firstObject, rest.secondObject⟩
  | required _ _ rest => exact ⟨rest.firstObject, rest.secondObject⟩
  | multiple _ _ _ rest => exact ⟨rest.firstObject, rest.secondObject⟩
  | option _ _ _ _ rest => exact ⟨rest.firstObject, rest.secondObject⟩
  | listed _ _ _ _ _ rest => exact ⟨rest.firstObject, rest.secondObject⟩
  | single _ _ _ _ rest => exact ⟨rest.firstObject, rest.secondObject⟩
  | several _ _ _ _ rest => exact ⟨rest.firstObject, rest.secondObject⟩

theorem CollectionEdit.isObject
    {descriptor edited : Document}
    (edit : CollectionEdit descriptor edited) :
    IsObject descriptor ∧ IsObject edited := by
  cases edit with
  | unread _ rest => exact ⟨rest.firstObject, rest.secondObject⟩
  | field _ _ _ rest => exact ⟨rest.firstObject, rest.secondObject⟩

end DocumentGrammar

namespace Descriptor

open DocumentGrammar

/-! ## Outcomes with the same meaning -/

/-- The same result, or errors of one kind about one property. -/
inductive SameMeaning {Result : Type} : Except Error Result → Except Error Result → Prop
  | ok (result : Result) :
      SameMeaning (.ok result) (.ok result)
  | error {error other : Error}
      (kind : other.kind = error.kind)
      (property : other.property? = error.property?) :
      SameMeaning (.error error) (.error other)

namespace SameMeaning

variable {First Second : Type}

theorem refl (outcome : Except Error First) : SameMeaning outcome outcome := by
  cases outcome with
  | error error =>
      exact .error rfl rfl
  | ok result =>
      exact .ok result

theorem of_eq {outcome other : Except Error First} (same : other = outcome) :
    SameMeaning outcome other := by
  rw [same]
  exact .refl outcome

theorem symm {outcome other : Except Error First} (same : SameMeaning outcome other) :
    SameMeaning other outcome := by
  cases same with
  | ok result =>
      exact .ok result
  | error kind property =>
      exact .error kind.symm property.symm

theorem trans
    {outcome middle other : Except Error First}
    (first : SameMeaning outcome middle)
    (second : SameMeaning middle other) :
    SameMeaning outcome other := by
  cases first with
  | ok result =>
      exact second
  | error kind property =>
      cases second with
      | error furtherKind furtherProperty =>
          exact .error (furtherKind.trans kind) (furtherProperty.trans property)

/-- Stages that mean the same can follow one another. -/
theorem bind
    {first other : Except Error First}
    {next further : First → Except Error Second}
    (before : SameMeaning first other)
    (after : ∀ result, first = .ok result → SameMeaning (next result) (further result)) :
    SameMeaning (first >>= next) (other >>= further) := by
  cases before with
  | ok result =>
      exact after result rfl
  | error kind property =>
      exact .error kind property

/-- A traversal keeps its meaning when one element is exchanged for another of its meaning. -/
theorem mapM_edited
    {step : Document → Except Error First}
    {element rewritten : Document}
    (same : SameMeaning (step element) (step rewritten))
    (before after : List Document) :
    SameMeaning ((before ++ element :: after).mapM step)
      ((before ++ rewritten :: after).mapM step) := by
  induction before with
  | nil =>
      simp only [List.nil_append, List.mapM_cons]
      exact same.bind fun _ _ => .refl _
  | cons first before ih =>
      simp only [List.cons_append, List.mapM_cons]
      exact (refl _).bind fun _ _ => ih.bind fun _ _ => .refl _

theorem eq_ok_iff
    {outcome other : Except Error First}
    (same : SameMeaning outcome other)
    {result : First} :
    outcome = .ok result ↔ other = .ok result := by
  cases same <;> simp

/-- A failure of one is a failure of the other, with the same kind and the same property. -/
theorem exists_error
    {outcome other : Except Error First}
    (same : SameMeaning outcome other)
    {error : Error}
    (failure : outcome = .error error) :
    ∃ further, other = .error further ∧
      further.kind = error.kind ∧ further.property? = error.property? := by
  subst failure
  cases same with
  | error kind property =>
      exact ⟨_, rfl, kind, property⟩

end SameMeaning

/-! ## Single properties -/

section Properties

variable {descriptor edited : Document} {property : String}

/-- A required text is read off its property alone; only the context of an error may differ. -/
theorem sameMeaning_requiredText
    (same : edited.member? property = descriptor.member? property)
    (context other : String) :
    SameMeaning (requiredText descriptor property context)
      (requiredText edited property other) := by
  unfold requiredText
  rw [same]
  cases descriptor.member? property with
  | none =>
      exact .error rfl rfl
  | some value =>
      cases usable : usableText? value with
      | none =>
          simp only [usable]
          exact .error rfl rfl
      | some text =>
          simp only [usable]
          exact .ok text

theorem requiredText_congr
    (same : edited.member? property = descriptor.member? property)
    (context : String) :
    requiredText edited property context = requiredText descriptor property context := by
  unfold requiredText
  rw [same]

theorem flag_congr
    (same : edited.member? property = descriptor.member? property)
    (context : String)
    (default : Bool) :
    flag edited property context default = flag descriptor property context default := by
  unfold flag
  rw [same]

/-- Saying of a flag what is understood changes nothing. -/
theorem flag_explicit
    {default : Bool}
    (absent : descriptor.member? property = none)
    (explicit : edited.member? property = some (.boolean default))
    (context : String) :
    flag edited property context default = flag descriptor property context default := by
  simp only [flag, absent, explicit]

theorem widgetTag_congr
    (same : edited.member? "widget" = descriptor.member? "widget")
    (name : String) :
    widgetTag edited name = widgetTag descriptor name := by
  unfold widgetTag
  rw [same]

theorem selectLeaf_congr
    (same : edited.member? "options" = descriptor.member? "options")
    (name : String) :
    selectLeaf edited name = selectLeaf descriptor name := by
  unfold selectLeaf
  rw [same]

theorem relationLeaf_congr
    (target : edited.member? "collection" = descriptor.member? "collection")
    (multiple : ∀ context,
      flag edited "multiple" context false = flag descriptor "multiple" context false)
    (name : String) :
    relationLeaf edited name = relationLeaf descriptor name := by
  unfold relationLeaf
  rw [target, multiple]

theorem listItems_congr
    (single : edited.member? "field" = descriptor.member? "field")
    (several : edited.member? "fields" = descriptor.member? "fields")
    (name : String) :
    listItems edited name = listItems descriptor name := by
  unfold listItems
  rw [single, several]

end Properties

/-- An option can be edited without changing its text. -/
theorem optionText?_edited
    {option edited : Document}
    (edit : OptionEdit option edited) :
    optionText? edited = optionText? option := by
  have ofObject : ∀ {option : Document}, IsObject option →
      optionText? option = (option.member? "value").bind Document.string? := by
    rintro _ ⟨members, rfl⟩
    rfl
  cases edit with
  | @unread _ _ key unread rest =>
      have kept : "value" ∉ [key] := by simpa using unread.symm
      rw [ofObject rest.firstObject, ofObject rest.secondObject, rest.same _ kept]
  | object value =>
      rw [ofObject (isObject_of_member? value), value]
      rfl

/-- A choice with an edited option has the options that it had. -/
theorem selectLeaf_edited
    {descriptor edited option rewritten : Document}
    {before after : List Document}
    (present : descriptor.member? "options" = some (.array (before ++ option :: after)))
    (replaced : edited.member? "options" = some (.array (before ++ rewritten :: after)))
    (edit : OptionEdit option rewritten)
    (name : String) :
    selectLeaf edited name = selectLeaf descriptor name := by
  have texts : (before ++ rewritten :: after).mapM optionText? =
      (before ++ option :: after).mapM optionText? := by
    simp only [List.mapM_append, List.mapM_cons, optionText?_edited edit]
  unfold selectLeaf
  rw [present, replaced]
  cases before with
  | nil =>
      rw [List.nil_append, List.nil_append] at *
      simp only [texts]
  | cons first before =>
      rw [List.cons_append, List.cons_append] at *
      simp only [texts]

theorem listItems_of_single
    {descriptor item : Document}
    (present : descriptor.member? "field" = some item)
    (object : IsObject item)
    (name : String) :
    listItems descriptor name = .ok [item] :=
  listItems_eq_ok_iff_isObject.mpr (.inl ⟨item, present, object, rfl⟩)

theorem listItems_of_several
    {descriptor : Document}
    {items : List Document}
    (several : ∀ item, descriptor.member? "field" = some item → ¬ IsObject item)
    (present : descriptor.member? "fields" = some (.array items))
    (filled : items ≠ [])
    (name : String) :
    listItems descriptor name = .ok items :=
  listItems_eq_ok_iff_isObject.mpr (.inr ⟨several, present, filled⟩)

/-! ## Fields -/

/--
Two fields that the conversion cannot tell apart, once their name is read.  The items
of a list only have to lead to outcomes with the same meaning.
-/
structure SameField (descriptor edited : Document) : Prop where
  name : edited.member? "name" = descriptor.member? "name"
  kind : edited.member? "widget" = descriptor.member? "widget"
  required : ∀ context,
    flag edited "required" context true = flag descriptor "required" context true
  choice : HasKind descriptor .select → ∀ name,
    selectLeaf edited name = selectLeaf descriptor name
  target : HasKind descriptor .relation → ∀ name,
    relationLeaf edited name = relationLeaf descriptor name
  items : HasKind descriptor .list → ∀ name lists,
    SameMeaning (listItems descriptor name >>= fun items => items.mapM (widgetWithin lists))
      (listItems edited name >>= fun items => items.mapM (widgetWithin lists))

/--
Fields that agree in what is read off them are converted alike, however many lists are
admitted.
-/
theorem SameField.sameMeaning
    {descriptor edited : Document}
    (same : SameField descriptor edited)
    (lists : Nat) :
    SameMeaning (widgetWithin lists descriptor) (widgetWithin lists edited) := by
  rw [widgetWithin.eq_def lists descriptor, widgetWithin.eq_def lists edited]
  refine (sameMeaning_requiredText same.name _ _).bind fun name _ => ?_
  rw [widgetTag_congr same.kind, same.required]
  refine (SameMeaning.refl _).bind fun tag tagged => ?_
  refine (SameMeaning.refl _).bind fun required _ => ?_
  have kind : HasKind descriptor tag := widgetTag_eq_ok_iff.mp tagged
  cases tag with
  | scalar scalar =>
      exact .refl _
  | select =>
      simp only [same.choice kind]
      exact .refl _
  | relation =>
      simp only [same.target kind]
      exact .refl _
  | list =>
      cases lists with
      | zero =>
          exact .refl _
      | succ further =>
          simp only [← bind_assoc]
          exact (same.items kind name further).bind fun _ _ => .refl _

/-- Either `field` holds the one item of a list, or its items are in `fields`. -/
theorem exists_single_or_several (descriptor : Document) :
    (∃ item, descriptor.member? "field" = some item ∧ IsObject item) ∨
      ∀ item, descriptor.member? "field" = some item → ¬ IsObject item := by
  by_cases single : ∃ item, descriptor.member? "field" = some item ∧ IsObject item
  · exact .inl single
  · exact .inr fun item present object => single ⟨item, present, object⟩

/--
Members outside of the edited place are the same on both sides, so it only has to be
shown of what lies in that place that it reads the same.
-/
theorem sameField_of_agreeExcept
    {keys : List String} {descriptor edited : Document}
    (rest : AgreeExcept keys descriptor edited)
    (apart : "name" ∉ keys ∧ "widget" ∉ keys)
    (required : "required" ∈ keys → ∀ context,
      flag edited "required" context true = flag descriptor "required" context true)
    (choice : HasKind descriptor .select → "options" ∈ keys → ∀ name,
      selectLeaf edited name = selectLeaf descriptor name)
    (target : HasKind descriptor .relation → "collection" ∈ keys ∨ "multiple" ∈ keys →
      ∀ name, relationLeaf edited name = relationLeaf descriptor name)
    (items : HasKind descriptor .list → "field" ∈ keys ∨ "fields" ∈ keys → ∀ name lists,
      SameMeaning (listItems descriptor name >>= fun items => items.mapM (widgetWithin lists))
        (listItems edited name >>= fun items => items.mapM (widgetWithin lists))) :
    SameField descriptor edited where
  name := rest.same _ apart.1
  kind := rest.same _ apart.2
  required := by
    by_cases inside : "required" ∈ keys
    · exact required inside
    · exact fun context => flag_congr (rest.same _ inside) context true
  choice := by
    intro kind
    by_cases inside : "options" ∈ keys
    · exact choice kind inside
    · exact selectLeaf_congr (rest.same _ inside)
  target := by
    intro kind
    by_cases inside : "collection" ∈ keys ∨ "multiple" ∈ keys
    · exact target kind inside
    · rw [not_or] at inside
      exact relationLeaf_congr (rest.same _ inside.1)
        fun context => flag_congr (rest.same _ inside.2) context false
  items := by
    intro kind name lists
    by_cases inside : "field" ∈ keys ∨ "fields" ∈ keys
    · exact items kind inside name lists
    · rw [not_or] at inside
      rw [listItems_congr (rest.same _ inside.1) (rest.same _ inside.2)]
      exact .refl _

/-- An edit of a field, or of a field inside it at any depth, keeps what it depends on. -/
theorem sameField_of_edit
    {descriptor edited : Document}
    (edit : FieldEdit descriptor edited) :
    SameField descriptor edited := by
  induction edit with
  | @unread descriptor edited key unread rest =>
      have unedited : ∀ {property}, IsRead descriptor property → property ∉ [key] := by
        intro property read
        rw [List.mem_singleton]
        rintro rfl
        exact unread read
      refine sameField_of_agreeExcept rest ⟨unedited .name, unedited .widget⟩ ?_ ?_ ?_ ?_
      · exact fun edited => absurd edited (unedited .required)
      · exact fun kind edited => absurd edited (unedited (.options kind))
      · rintro kind (edited | edited)
        · exact absurd edited (unedited (.collection kind))
        · exact absurd edited (unedited (.multiple kind))
      · intro kind _ name lists
        have same := rest.same _ (unedited (.field kind))
        rcases exists_single_or_several descriptor with ⟨item, present, object⟩ | several
        · rw [listItems_of_single present object,
            listItems_of_single (same.trans present) object]
          exact .refl _
        · rw [listItems_congr same (rest.same _ (unedited (.fields kind several)))]
          exact .refl _
  | required absent explicit rest =>
      exact sameField_of_agreeExcept rest (by decide)
        (fun _ => flag_explicit absent explicit) (by simp) (by simp) (by simp)
  | multiple _ absent explicit rest =>
      refine sameField_of_agreeExcept rest (by decide) (by simp) (by simp) ?_ (by simp)
      intro _ _
      exact relationLeaf_congr (rest.same _ (by decide)) (flag_explicit absent explicit)
  | option _ present replaced inside rest =>
      exact sameField_of_agreeExcept rest (by decide) (by simp)
        (fun _ _ => selectLeaf_edited present replaced inside) (by simp) (by simp)
  | @listed _ edited item _ present object absent replaced rest =>
      refine sameField_of_agreeExcept rest (by decide) (by simp) (by simp) (by simp) ?_
      intro _ _ name lists
      have several : ∀ item, edited.member? "field" = some item → ¬ IsObject item := by
        rw [absent]
        exact nofun
      rw [listItems_of_single present object,
        listItems_of_several several replaced (List.cons_ne_nil _ _)]
      exact .refl _
  | single _ present replaced inside rest ih =>
      refine sameField_of_agreeExcept rest (by decide) (by simp) (by simp) (by simp) ?_
      intro _ _ name lists
      rw [listItems_of_single present inside.isObject.1,
        listItems_of_single replaced inside.isObject.2]
      exact (ih.sameMeaning lists).mapM_edited [] []
  | @several descriptor _ before item after rewritten _ present replaced inside rest ih =>
      refine sameField_of_agreeExcept rest (by decide) (by simp) (by simp) (by simp) ?_
      intro _ _ name lists
      have same := rest.same "field" (by decide)
      rcases exists_single_or_several descriptor with ⟨single, alone, object⟩ | several
      · -- Then `fields` is not looked at, whatever is edited in it.
        rw [listItems_of_single alone object, listItems_of_single (same.trans alone) object]
        exact .refl _
      · rw [listItems_of_several several present (by simp),
          listItems_of_several (by rwa [same]) replaced (by simp)]
        exact (ih.sameMeaning lists).mapM_edited before after

/-! ## Collections and whole documents -/

/-- An edit of a collection keeps what it means. -/
theorem sameMeaning_collection
    {descriptor edited : Document}
    (edit : CollectionEdit descriptor edited)
    (lead : Option String) :
    SameMeaning (collectionObject lead descriptor) (collectionObject lead edited) := by
  have ofObject : ∀ {descriptor : Document}, IsObject descriptor →
      collectionObject lead descriptor = collection lead descriptor := by
    rintro _ ⟨members, rfl⟩
    rfl
  rw [ofObject edit.isObject.1, ofObject edit.isObject.2]
  unfold collection
  cases edit with
  | unread unread rest =>
      simp only [List.mem_cons, List.not_mem_nil, or_false, not_or] at unread
      have name := rest.same "name" (by simpa using Ne.symm unread.1)
      have folder := rest.same "folder" (by simpa using Ne.symm unread.2.1)
      have fields := rest.same "fields" (by simpa using Ne.symm unread.2.2)
      simp only [requiredText_congr name, requiredText_congr folder, collectionFields, fields]
      exact .refl _
  | field present replaced inside rest =>
      rw [requiredText_congr (rest.same _ (by decide))]
      simp only [requiredText_congr (rest.same "folder" (by decide))]
      refine (SameMeaning.refl _).bind fun name _ => ?_
      refine (SameMeaning.refl _).bind fun folder _ => ?_
      rw [collectionFields_eq_ok_iff.mpr present, collectionFields_eq_ok_iff.mpr replaced,
        ok_bind, ok_bind]
      have field := (sameField_of_edit inside).sameMeaning listLimit
      exact (SameMeaning.mapM_edited field _ _).bind fun _ _ => .refl _

theorem collectionDescriptors_congr
    {document edited : Document}
    (object : IsObject document)
    (editedObject : IsObject edited)
    (same : edited.member? "collections" = document.member? "collections") :
    collectionDescriptors edited = collectionDescriptors document := by
  rcases object with ⟨members, rfl⟩
  rcases editedObject with ⟨others, rfl⟩
  unfold collectionDescriptors
  simp only [same]

theorem locales_congr
    {document edited : Document}
    (same : ((edited.member? "i18n").bind fun settings => settings.member? "locales") =
      (document.member? "i18n").bind fun settings => settings.member? "locales") :
    locales edited = locales document := by
  unfold locales
  rw [same]

/-- A document is converted by its collections and its locales alone. -/
theorem config_congr
    {document edited : Document}
    (descriptors : collectionDescriptors edited = collectionDescriptors document)
    (codes : locales edited = locales document)
    (lead : Option String) :
    config lead edited = config lead document := by
  unfold config
  rw [descriptors, codes]

/-- One edit keeps the meaning of a document. -/
theorem sameMeaning_config_of_edit
    {document edited : Document}
    (edit : DocumentEdit document edited)
    (lead : Option String) :
    SameMeaning (config lead document) (config lead edited) := by
  cases edit with
  | unread unread rest =>
      simp only [List.mem_cons, List.not_mem_nil, or_false, not_or] at unread
      have collections := rest.same "collections" (by simpa using Ne.symm unread.1)
      have settings := rest.same "i18n" (by simpa using Ne.symm unread.2)
      refine .of_eq (config_congr ?_ (locales_congr ?_) lead)
      · exact collectionDescriptors_congr rest.firstObject rest.secondObject collections
      · rw [settings]
  | settings present replaced unread inside rest =>
      have kept := inside.same "locales" (by simpa using unread.symm)
      refine .of_eq (config_congr ?_ (locales_congr ?_) lead)
      · exact collectionDescriptors_congr rest.firstObject rest.secondObject
          (rest.same _ (by decide))
      · rw [present, replaced, Option.bind_some, Option.bind_some, kept]
  | unlocalized absent added object without rest =>
      refine .of_eq (config_congr ?_ ?_ lead)
      · exact collectionDescriptors_congr rest.firstObject rest.secondObject
          (rest.same _ (by decide))
      · unfold locales
        rw [absent, added, Option.bind_none, Option.bind_some]
        rcases without with missing | null
        · rw [missing]
        · rw [null]
  | collection present replaced inside rest =>
      have codes : locales edited = locales document :=
        locales_congr (by rw [rest.same "i18n" (by decide)])
      unfold config
      rw [collectionDescriptors_eq_ok_iff.mpr ⟨rest.firstObject, present⟩,
        collectionDescriptors_eq_ok_iff.mpr ⟨rest.secondObject, replaced⟩, ok_bind, ok_bind,
        codes]
      have converted := sameMeaning_collection inside lead
      exact (SameMeaning.mapM_edited converted _ _).bind fun _ _ => .refl _

/-- Edits of a document, in whatever number and direction, keep what it means. -/
theorem sameMeaning_config
    {document edited : Document}
    (edits : Synonymous document edited)
    (lead : Option String) :
    SameMeaning (config lead document) (config lead edited) := by
  induction edits with
  | rel _ _ edit => exact sameMeaning_config_of_edit edit lead
  | refl _ => exact .refl _
  | symm _ _ _ ih => exact ih.symm
  | trans _ _ _ _ _ first second => exact first.trans second

/--
Documents that edits connect mean the same: where one has a configuration, the other
has the same, and where one has an error, the other has one of that kind about that
property.
-/
theorem outcome_of_synonymous
    {document edited : Document}
    (edits : Synonymous document edited)
    (lead : Option String) :
    (∀ made, config lead document = .ok made ↔ config lead edited = .ok made) ∧
      ∀ error, config lead document = .error error →
        ∃ other, config lead edited = .error other ∧
          other.kind = error.kind ∧ other.property? = error.property? := by
  have same := sameMeaning_config edits lead
  exact ⟨fun _ => same.eq_ok_iff, fun _ => same.exists_error⟩

/-! ## A catalogue in two spellings -/

/-- Objects that differ in members with certain keys only agree in all others. -/
theorem agreeExcept_exchanged
    {keys : List String}
    (before first second after : List (String × Document))
    (among : ∀ member ∈ first ++ second, member.1 ∈ keys) :
    AgreeExcept keys (.object (before ++ first ++ after)) (.object (before ++ second ++ after)) := by
  refine ⟨⟨_, rfl⟩, ⟨_, rfl⟩, ?_⟩
  intro key outside
  have absent : ∀ members : List (String × Document),
      (∀ member ∈ members, member.1 ∈ keys) → members.lookup key = none := by
    intro members inside
    rw [List.lookup_eq_none_iff]
    intro member listed
    simpa using (ne_of_mem_of_not_mem (inside member listed) outside).symm
  rw [List.forall_mem_append] at among
  simp only [Document.member?_object, List.lookup_append, absent first among.1,
    absent second among.2]

/-- An edit of one field is an edit of the document around it. -/
theorem documentEdit_of_fieldEdit
    {field rewritten : Document}
    (edit : FieldEdit field rewritten)
    (name folder : String)
    (before after : List Document) :
    DocumentEdit (documentOf name folder (before ++ field :: after))
      (documentOf name folder (before ++ rewritten :: after)) := by
  have inside : CollectionEdit (collectionOf name folder (before ++ field :: after))
      (collectionOf name folder (before ++ rewritten :: after)) :=
    .field rfl rfl edit (agreeExcept_exchanged [] [_] [_] _ (by simp))
  have collections : ∀ collection : Document,
      (Document.object [("collections", .array [collection])]).member? "collections" =
        some (.array ([] ++ collection :: [])) := fun _ => rfl
  exact .collection (collections _) (collections _) inside
    (agreeExcept_exchanged [] [_] [_] [] (by simp))

/-- A choice between two sizes, the first of which can be written in two ways. -/
def sizeChoice (small : Document) : Document :=
  .object [
    ("name", .string "size"),
    ("options", .array [small, .string "large"]),
    ("widget", .string "select")]

/-- A list with its content first and its flags in the middle. -/
def sizeList (content : String × Document) (flags : List (String × Document)) : Document :=
  .object (content :: ("name", .string "sizes") :: flags ++ [("widget", .string "list")])

/-- An option with a label, which means the same as its value alone. -/
def labelledOption : Document :=
  .object [("label", .string "Small"), ("value", .string "small")]

/-- A list of one choice, with as little written as possible. -/
def catalogue : Document :=
  documentOf "shop" "items" [sizeList ("field", sizeChoice (.string "small")) []]

/-- The same list with everything said at length, and with settings that set nothing. -/
def respelledCatalogue : Document :=
  .object [
    ("collections", .array [collectionOf "shop" "items"
      [sizeList ("fields", .array [sizeChoice labelledOption]) [("required", .boolean true)]]]),
    ("i18n", .object [("locales", .null)])]

/-- The configuration that both writings of the catalogue are converted to. -/
def catalogueConfig : Config :=
  ⟨[⟨"shop", "items",
    [.ofItems "sizes" [.ofLeaf "size" true (.selectOf ["small", "large"])]], none⟩], []⟩

/-- The two writings are connected by four edits, from the option outwards. -/
theorem synonymous_catalogue : Synonymous catalogue respelledCatalogue := by
  have option : FieldEdit (sizeChoice (.string "small")) (sizeChoice labelledOption) :=
    @FieldEdit.option _ _ [] _ _ _ rfl rfl rfl (.object rfl)
      (agreeExcept_exchanged [_] [_] [_] [_] (by simp))
  have inside : FieldEdit (sizeList ("field", sizeChoice (.string "small")) [])
      (sizeList ("field", sizeChoice labelledOption) []) :=
    .single rfl rfl rfl option (agreeExcept_exchanged [] [_] [_] [_, _] (by simp))
  have listed : FieldEdit (sizeList ("field", sizeChoice labelledOption) [])
      (sizeList ("fields", .array [sizeChoice labelledOption]) []) :=
    .listed rfl rfl ⟨_, rfl⟩ rfl rfl (agreeExcept_exchanged [] [_] [_] [_, _] (by simp))
  have required : FieldEdit (sizeList ("fields", .array [sizeChoice labelledOption]) [])
      (sizeList ("fields", .array [sizeChoice labelledOption]) [("required", .boolean true)]) :=
    .required rfl rfl (agreeExcept_exchanged [_, _] [] [_] [_] (by simp))
  have settings : DocumentEdit
      (documentOf "shop" "items"
        [sizeList ("fields", .array [sizeChoice labelledOption]) [("required", .boolean true)]])
      respelledCatalogue :=
    .unlocalized rfl rfl ⟨_, rfl⟩ (.inr rfl) (agreeExcept_exchanged [_] [] [_] [] (by simp))
  have steps : ∀ {field rewritten}, FieldEdit field rewritten →
      Synonymous (documentOf "shop" "items" [field]) (documentOf "shop" "items" [rewritten]) :=
    fun edit => .rel _ _ (documentEdit_of_fieldEdit edit "shop" "items" [] [])
  exact .trans _ _ _ (steps inside) (.trans _ _ _ (steps listed)
    (.trans _ _ _ (steps required) (.rel _ _ settings)))

theorem config_catalogue : config none catalogue = .ok catalogueConfig := by
  have choice : widgetWithin 31 (sizeChoice (.string "small")) =
      .ok (.ofLeaf "size" true (.selectOf ["small", "large"])) :=
    widgetWithin_eq_ok_iff.mpr (.select ⟨rfl, rfl, rfl⟩ rfl)
  have list : widget (sizeList ("field", sizeChoice (.string "small")) []) =
      .ok (.ofItems "sizes" [.ofLeaf "size" true (.selectOf ["small", "large"])]) :=
    widgetWithin_eq_ok_iff.mpr (.list ⟨rfl, rfl, rfl⟩ rfl (.cons choice .nil))
  apply config_documentOf rfl rfl
  rw [List.mapM_cons, list]
  rfl

/-- A field without a name, with something in front of its kind. -/
def namelessField (notes : List (String × Document)) : Document :=
  .object (notes ++ [("widget", .string "string")])

/-- A note that nothing reads may be added. -/
theorem synonymous_nameless :
    Synonymous (documentOf "shop" "items" [namelessField []])
      (documentOf "shop" "items" [namelessField [("hint", .string "Give a name")]]) := by
  have read : ∀ key, IsRead (namelessField []) key → key ≠ "hint" := by
    intro key read
    cases read <;> decide
  have note : FieldEdit (namelessField []) (namelessField [("hint", .string "Give a name")]) :=
    .unread (fun hint => read _ hint rfl) (agreeExcept_exchanged [] [] [_] [_] (by simp))
  exact .rel _ _ (documentEdit_of_fieldEdit note "shop" "items" [] [])

theorem config_nameless :
    config none (documentOf "shop" "items" [namelessField []]) =
      .error (.missingProperty "name" (fieldContext (namelessField []).compact)) := by
  have fault : FieldFault 0 (namelessField [])
      (.missingProperty "name" (fieldContext (namelessField []).compact)) :=
    .heading (.name (.missing rfl))
  have inside : CollectionFault (collectionOf "shop" "items" [namelessField []]) _ :=
    @CollectionFault.field _ _ [] _ [] _ ⟨rfl, rfl⟩ ⟨_, rfl, _, rfl, rfl⟩ rfl (by simp) fault
  exact config_eq_error_iff.mpr
    (@ConfigurationFault.collection _ [] _ [] _ rfl (by simp) (.inside ⟨_, rfl⟩ inside))

/--
Both spellings of the catalogue have one configuration.  A note on a field without a
name changes what the error shows of the field, but neither its kind nor its property.
-/
theorem outcome_of_respelledCatalogue :
    config none respelledCatalogue = .ok catalogueConfig ∧
      ∃ other,
        config none (documentOf "shop" "items"
            [namelessField [("hint", .string "Give a name")]]) = .error other ∧
          other.kind = "MissingField" ∧ other.property? = some "name" := by
  have same := (outcome_of_synonymous synonymous_catalogue none).1 catalogueConfig
  exact ⟨same.mp config_catalogue,
    (outcome_of_synonymous synonymous_nameless none).2 _ config_nameless⟩

end Descriptor

end ContentSchema
