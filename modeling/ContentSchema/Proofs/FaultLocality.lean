import Mathlib
import ContentSchema.Proofs.FirstFault

/-!
# What the error of a document depends on

The first fault alone decides the error.  Whatever comes after it, in its list, in
the lists around it, in its collection and in the document, may be rewritten by any
values, and the lead in front of folders may change: the error stays the same.

`RewrittenField`, `RewrittenCollection` and `RewrittenDocument` say which documents
are such rewritings.  They follow the path from the document down to the faulty
descriptor; on each level the values up to that path stay, and those after it are
exchanged for any list of values.  That the error stays is an induction on the path,
which needs that the error of a list is that of its first faulty field.
-/

namespace ContentSchema

open Traversal (exists_mapM_eq_ok_iff)

/-- The same object with a member set to a value. -/
def Document.withMember (document : Document) (key : String) (value : Document) : Document :=
  match document with
  | .object members => .object (insertMember key value members)
  | other => other

namespace DocumentGrammar

theorem IsObject.member?_withMember_self
    {document : Document}
    (object : IsObject document)
    (key : String) (value : Document) :
    (document.withMember key value).member? key = some value := by
  rcases object with ⟨members, rfl⟩
  exact Document.lookup_insertMember_self key value members

theorem member?_withMember_of_ne
    {key other : String}
    (different : other ≠ key)
    (value document : Document) :
    (document.withMember key value).member? other = document.member? other := by
  cases document with
  | object members =>
      exact Document.lookup_insertMember_of_ne different value members
  | _ =>
      rfl

theorem IsObject.withMember
    {document : Document}
    (object : IsObject document)
    (key : String) (value : Document) :
    IsObject (document.withMember key value) := by
  rcases object with ⟨members, rfl⟩
  exact ⟨_, rfl⟩

theorem TextIs.withMember
    {descriptor value : Document} {property text key : String}
    (given : TextIs descriptor property text)
    (apart : property ≠ key) :
    TextIs (descriptor.withMember key value) property text := by
  refine ⟨?_, given.filled⟩
  rw [member?_withMember_of_ne apart]
  exact given.present

theorem TextFault.withMember
    {descriptor value : Document} {property context key : String} {error : Error}
    (fault : TextFault descriptor property context error)
    (apart : property ≠ key) :
    TextFault (descriptor.withMember key value) property context error := by
  have same := member?_withMember_of_ne apart value descriptor
  cases fault with
  | missing absent =>
      exact .missing (same.trans absent)
  | invalid present unusable =>
      exact .invalid (same.trans present) unusable

/-- The heading of a field stays as long as its own properties do. -/
theorem IsHeaded.withMember
    {descriptor value : Document} {name key : String} {tag : Tag}
    (headed : IsHeaded descriptor name tag)
    (apart : "name" ≠ key ∧ "widget" ≠ key ∧ "required" ≠ key) :
    IsHeaded (descriptor.withMember key value) name tag := by
  refine ⟨headed.named.withMember apart.1, ?_, ?_⟩
  · rw [member?_withMember_of_ne apart.2.1]
    exact headed.tagged
  · rw [HasFlag, member?_withMember_of_ne apart.2.2]
    exact headed.flagged

/-! ## Rewritings -/

/-- A field, and what may stand in its place, with so many lists around it. -/
inductive RewrittenField : Nat → Document → Document → Prop
  | same {depth descriptor} :
      RewrittenField depth descriptor descriptor
  | one {depth descriptor name item rewritten}
      (headed : IsHeaded descriptor name .list)
      (shallow : depth < 32)
      (present : descriptor.member? "field" = some item)
      (object : IsObject item)
      (faulty : ¬ IsField (depth + 1) item)
      (inside : RewrittenField (depth + 1) item rewritten) :
      RewrittenField depth descriptor (descriptor.withMember "field" rewritten)
  | several {depth descriptor name before item after rewritten later}
      (headed : IsHeaded descriptor name .list)
      (shallow : depth < 32)
      (several : ∀ single, descriptor.member? "field" = some single → ¬ IsObject single)
      (present : descriptor.member? "fields" = some (.array (before ++ item :: after)))
      (accepted : ∀ earlier ∈ before, IsField (depth + 1) earlier)
      (faulty : ¬ IsField (depth + 1) item)
      (inside : RewrittenField (depth + 1) item rewritten) :
      RewrittenField depth descriptor
        (descriptor.withMember "fields" (.array (before ++ rewritten :: later)))

/-- A collection, and what may stand in its place. -/
inductive RewrittenCollection : Document → Document → Prop
  | same {descriptor} :
      RewrittenCollection descriptor descriptor
  | field {descriptor before field after rewritten later}
      (present : descriptor.member? "fields" = some (.array (before ++ field :: after)))
      (accepted : ∀ earlier ∈ before, IsField 0 earlier)
      (faulty : ¬ IsField 0 field)
      (inside : RewrittenField 0 field rewritten) :
      RewrittenCollection descriptor
        (descriptor.withMember "fields" (.array (before ++ rewritten :: later)))

/--
A document with a faulty collection, and what may stand in its place: any document
with the same collections up to that one, whatever its locales and other members.
-/
inductive RewrittenDocument : Document → Document → Prop
  | same {document} :
      RewrittenDocument document document
  | collection {document other before descriptor after rewritten later}
      (present : document.member? "collections" =
        some (.array (before ++ descriptor :: after)))
      (accepted : ∀ earlier ∈ before, IsCollection earlier)
      (faulty : ¬ IsCollection descriptor)
      (inside : RewrittenCollection descriptor rewritten)
      (replaced : other.member? "collections" =
        some (.array (before ++ rewritten :: later))) :
      RewrittenDocument document other

end DocumentGrammar

namespace Descriptor

open DocumentGrammar

/-! ## One fault each -/

/-- A field has a fault unless it is one in the grammar. -/
theorem exists_fieldFault_iff {depth : Nat} {descriptor : Document} :
    (∃ error, FieldFault depth descriptor error) ↔ ¬ IsField depth descriptor := by
  simp only [← exists_widgetWithin_eq_ok_iff, ← widgetWithin_eq_error_iff]
  cases widgetWithin (listLimit - depth) descriptor <;> simp

theorem fieldFault_unique
    {depth : Nat} {descriptor : Document} {error other : Error}
    (fault : FieldFault depth descriptor error)
    (again : FieldFault depth descriptor other) :
    error = other := by
  rw [← widgetWithin_eq_error_iff] at fault again
  rw [fault] at again
  cases again
  rfl

theorem collectionFault_unique
    {descriptor : Document} {error other : Error}
    (fault : CollectionFault descriptor error)
    (again : CollectionFault descriptor other) :
    error = other := by
  rw [← @collection_eq_error_iff none] at fault again
  rw [fault] at again
  cases again
  rfl

theorem exists_collectionObjectFault_iff {descriptor : Document} :
    (∃ error, CollectionObjectFault descriptor error) ↔ ¬ IsCollection descriptor := by
  simp only [← @exists_collectionObject_eq_ok_iff none, ← @collectionObject_eq_error_iff none]
  cases collectionObject none descriptor <;> simp

/-- A document has one first fault. -/
theorem configurationFault_unique
    {document : Document} {error other : Error}
    (fault : ConfigurationFault document error)
    (again : ConfigurationFault document other) :
    error = other := by
  rw [← @config_eq_error_iff none] at fault again
  rw [fault] at again
  cases again
  rfl

/-- The fault of a list with its own checks in order is that of its first faulty field. -/
theorem fieldFault_item
    {depth : Nat} {descriptor item : Document} {name : String}
    {before after : List Document} {error : Error}
    (headed : IsHeaded descriptor name .list)
    (shallow : depth < 32)
    (listed : ListItems descriptor (before ++ item :: after))
    (accepted : ∀ earlier ∈ before, IsField (depth + 1) earlier)
    (faulty : ¬ IsField (depth + 1) item)
    (fault : FieldFault depth descriptor error) :
    FieldFault (depth + 1) item error := by
  rcases exists_fieldFault_iff.mpr faulty with ⟨inner, inside⟩
  have same := fieldFault_unique fault (.item headed shallow listed accepted inside)
  rw [same]
  exact inside

/-! ## Faults of rewritings -/

theorem isObject_rewrittenField
    {depth : Nat} {descriptor rewritten : Document}
    (rewriting : RewrittenField depth descriptor rewritten)
    (object : IsObject descriptor) :
    IsObject rewritten := by
  cases rewriting with
  | same =>
      exact object
  | one _ _ _ _ _ _ =>
      exact object.withMember _ _
  | several _ _ _ _ _ _ _ =>
      exact object.withMember _ _

/-- The fault of a field stays when what comes after it is rewritten. -/
theorem fieldFault_rewritten
    {depth : Nat} {descriptor rewritten : Document} {error : Error}
    (rewriting : RewrittenField depth descriptor rewritten)
    (fault : FieldFault depth descriptor error) :
    FieldFault depth rewritten error := by
  induction rewriting with
  | same =>
      exact fault
  | @one depth descriptor name item rewritten headed shallow present object faulty inside ih =>
      have list := isObject_of_member? present
      have listed : ListItems descriptor ([] ++ item :: []) := .one present object
      have relisted :
          ListItems (descriptor.withMember "field" rewritten) ([] ++ rewritten :: []) :=
        .one (list.member?_withMember_self _ _) (isObject_rewrittenField inside object)
      have innermost := fieldFault_item headed shallow listed (by simp) faulty fault
      exact .item (headed.withMember (by decide)) shallow relisted (by simp) (ih innermost)
  | @several depth descriptor name before item after rewritten later headed shallow several
      present accepted faulty inside ih =>
      have list := isObject_of_member? present
      have listed : ListItems descriptor (before ++ item :: after) :=
        .several several present (by simp)
      have relisted : ListItems
          (descriptor.withMember "fields" (.array (before ++ rewritten :: later)))
          (before ++ rewritten :: later) := by
        refine .several ?_ (list.member?_withMember_self _ _) (by simp)
        rw [member?_withMember_of_ne (by decide)]
        exact several
      have innermost := fieldFault_item headed shallow listed accepted faulty fault
      exact .item (headed.withMember (by decide)) shallow relisted accepted (ih innermost)

theorem isObject_rewrittenCollection
    {descriptor rewritten : Document}
    (rewriting : RewrittenCollection descriptor rewritten)
    (object : IsObject descriptor) :
    IsObject rewritten := by
  cases rewriting with
  | same =>
      exact object
  | field _ _ _ _ =>
      exact object.withMember _ _

/-- The fault of a collection stays when what comes after its faulty field is rewritten. -/
theorem collectionFault_rewritten
    {descriptor rewritten : Document} {error : Error}
    (rewriting : RewrittenCollection descriptor rewritten)
    (fault : CollectionFault descriptor error) :
    CollectionFault rewritten error := by
  cases rewriting with
  | same =>
      exact fault
  | @field before field after rewritten later present accepted faulty inside =>
      have object := isObject_of_member? present
      cases fault with
      | name fault =>
          exact .name (fault.withMember (by decide))
      | folder named fault =>
          exact .folder (named.withMember (by decide)) (fault.withMember (by decide))
      | missingFields _ _ absent =>
          rw [present] at absent
          cases absent
      | invalidFields _ _ other unusable =>
          rw [present] at other
          cases other
          exact absurd rfl (unusable _)
      | @field name earlier first others _ named placed listed usable fault =>
          rcases exists_fieldFault_iff.mpr faulty with ⟨inner, innermost⟩
          have same : error = inner := collectionFault_unique
            (.field named placed listed usable fault)
            (.field named placed present accepted innermost)
          rw [same]
          rcases placed.exists_textIs with ⟨folder, placed⟩
          exact .field (named.withMember (by decide))
            (placed.withMember (by decide)).hasText
            (object.member?_withMember_self _ _) accepted
            (fieldFault_rewritten inside innermost)

/-- A rewriting behind the first fault of a collection leaves it the first. -/
theorem collectionObjectFault_rewritten
    {descriptor rewritten : Document} {error : Error}
    (rewriting : RewrittenCollection descriptor rewritten)
    (fault : CollectionObjectFault descriptor error) :
    CollectionObjectFault rewritten error := by
  cases fault with
  | noObject unusable =>
      cases rewriting with
      | same =>
          exact .noObject unusable
      | field present _ _ _ =>
          exact absurd (isObject_of_member? present) unusable
  | inside object fault =>
      exact .inside (isObject_rewrittenCollection rewriting object)
        (collectionFault_rewritten rewriting fault)

/-- The fault of a document stays when what comes after it is rewritten. -/
theorem configurationFault_rewritten
    {document rewritten : Document} {error : Error}
    (rewriting : RewrittenDocument document rewritten)
    (fault : ConfigurationFault document error) :
    ConfigurationFault rewritten error := by
  cases rewriting with
  | same =>
      exact fault
  | collection present accepted faulty inside replaced =>
      rcases exists_collectionObjectFault_iff.mpr faulty with ⟨inner, innermost⟩
      have same : error = inner :=
        configurationFault_unique fault (.collection present accepted innermost)
      rw [same]
      exact .collection replaced accepted (collectionObjectFault_rewritten inside innermost)

end Descriptor

namespace DocumentGrammar

/-! ## Locales come last -/

theorem TextFault.property?_eq
    {descriptor : Document} {property context : String} {error : Error}
    (fault : TextFault descriptor property context error) :
    error.property? = some property := by
  cases fault <;> rfl

theorem FlagFault.property?_eq
    {descriptor : Document} {property context : String} {error : Error}
    (fault : FlagFault descriptor property context error) :
    error.property? = some property := by
  cases fault
  rfl

theorem HeadingFault.property?_ne
    {descriptor : Document} {error : Error}
    (fault : HeadingFault descriptor error) :
    error.property? ≠ some "i18n.locales" := by
  cases fault with
  | name fault =>
      rw [fault.property?_eq]
      decide
  | kind _ fault =>
      cases fault <;> simp [Error.property?]
  | required _ _ fault =>
      rw [fault.property?_eq]
      decide

/-- No fault of a field looks like one of the locales, at any depth. -/
theorem FieldFault.property?_ne
    {depth : Nat} {descriptor : Document} {error : Error}
    (fault : FieldFault depth descriptor error) :
    error.property? ≠ some "i18n.locales" := by
  induction fault with
  | heading fault =>
      exact fault.property?_ne
  | multiple _ _ fault =>
      rw [fault.property?_eq]
      decide
  | item _ _ _ _ _ ih =>
      exact ih
  | _ =>
      simp [Error.property?]

theorem CollectionObjectFault.property?_ne
    {descriptor : Document} {error : Error}
    (fault : CollectionObjectFault descriptor error) :
    error.property? ≠ some "i18n.locales" := by
  cases fault with
  | noObject _ =>
      simp [Error.property?]
  | inside _ fault =>
      cases fault with
      | name fault =>
          rw [fault.property?_eq]
          decide
      | folder _ fault =>
          rw [fault.property?_eq]
          decide
      | field _ _ _ _ fault =>
          exact fault.property?_ne
      | _ =>
          simp [Error.property?]

/-- An error about locales is one of a document whose collections are all accepted. -/
theorem ConfigurationFault.collections_of_locales
    {document : Document} {error : Error}
    (fault : ConfigurationFault document error)
    (about : error.property? = some "i18n.locales") :
    ∃ descriptors,
      document.member? "collections" = some (.array descriptors) ∧
        (∀ descriptor ∈ descriptors, IsCollection descriptor) ∧
        ¬ HasLocales document := by
  cases fault with
  | locales present accepted unusable =>
      exact ⟨_, present, accepted, unusable⟩
  | collection _ _ fault =>
      exact absurd about fault.property?_ne
  | _ =>
      simp [Error.property?] at about

end DocumentGrammar

namespace Descriptor

open DocumentGrammar

/-! ## The first fault decides -/

/--
The error of a field and that of a document are their first faults, in the order of
the checks.  Nothing that comes after the first fault can change the error, and
neither can the lead.  Locales are only looked at when all collections are made.
-/
theorem first_fault_decides :
    (∀ depth descriptor error,
      widgetWithin (listLimit - depth) descriptor = .error error ↔
        FieldFault depth descriptor error) ∧
    (∀ lead document error,
      config lead document = .error error ↔ ConfigurationFault document error) ∧
    (∀ lead other document rewritten error,
      config lead document = .error error →
      RewrittenDocument document rewritten →
        config other rewritten = .error error) ∧
    ∀ lead document error,
      config lead document = .error error →
      error.property? = some "i18n.locales" →
        ∃ descriptors collections,
          collectionDescriptors document = .ok descriptors ∧
            descriptors.mapM (collectionObject lead) = .ok collections ∧
            locales document = .error error := by
  refine ⟨widgetWithin_eq_error_iff, fun _ _ _ => config_eq_error_iff, ?_, ?_⟩
  · intro lead other document rewritten error failed rewriting
    exact config_eq_error_iff.mpr
      (configurationFault_rewritten rewriting (config_eq_error_iff.mp failed))
  · intro lead document error failed about
    rcases (config_eq_error_iff.mp failed).collections_of_locales about with
      ⟨descriptors, present, accepted, unusable⟩
    rcases exists_mapM_eq_ok_iff.mpr fun descriptor member =>
        exists_collectionObject_eq_ok_iff.mpr (accepted descriptor member) with
      ⟨collections, converted⟩
    have listed : collectionDescriptors document = .ok descriptors :=
      collectionDescriptors_eq_ok_iff.mpr ⟨isObject_of_member? present, present⟩
    have last : locales document = .error invalidLocales :=
      locales_eq_error_iff.mpr ⟨unusable, rfl⟩
    have same : error = invalidLocales :=
      configurationFault_unique (config_eq_error_iff.mp failed)
        (.locales present accepted unusable)
    rw [same]
    exact ⟨descriptors, collections, listed, converted, last⟩

/-- A field of a given kind, without any other property. -/
def plainField (name kind : String) : Document :=
  .object [("name", .string name), ("widget", .string kind)]

/-- A list with an unknown kind of field between two fields. -/
def sizesField : Document :=
  .object [
    ("fields", .array [
      plainField "label" "string", plainField "size" "slider", plainField "label" "string"]),
    ("name", .string "sizes"),
    ("widget", .string "list")]

/-- A collection whose first field is at fault, with a sound field behind it. -/
def shopCollection : Document :=
  collectionOf "shop" "items" [sizesField, plainField "label" "string"]

/-- A document with the shop as its only collection. -/
def shopDocument : Document :=
  .object [("collections", .array [shopCollection])]

/-- Other values behind the fault: in the list, in the collection and in the document. -/
def rewrittenShop : Document :=
  .object [
    ("collections", .array [
      shopCollection.withMember "fields" (.array [
        sizesField.withMember "fields"
          (.array [plainField "label" "string", plainField "size" "slider", .null]),
        .boolean true]),
      .string "blog"]),
    ("i18n", .object [("locales", .boolean false)])]

theorem isField_label : IsField 1 (plainField "label" "string") := by
  have named : IsNamed (plainField "label" "string") (.scalar .string) :=
    ⟨⟨_, rfl⟩, ⟨_, rfl, _, rfl, rfl⟩, rfl, .inl rfl⟩
  exact .scalar named

theorem fieldFault_size :
    FieldFault 1 (plainField "size" "slider") (.unknownWidget "size" "slider") := by
  refine .heading (.kind ⟨rfl, rfl⟩ (.unknown rfl ?_))
  intro tag same
  have found := Tag.ofText?_eq_some_iff.mpr same
  cases found

theorem isHeaded_sizes : IsHeaded sizesField "sizes" .list :=
  ⟨⟨rfl, rfl⟩, rfl, .inl rfl⟩

/-- The unknown kind is the first fault of the list, whatever follows it. -/
theorem fieldFault_sizes :
    FieldFault 0 sizesField (.unknownWidget "size" "slider") := by
  have listed : ListItems sizesField
      ([plainField "label" "string"] ++ plainField "size" "slider" ::
        [plainField "label" "string"]) :=
    .several (fun single present => by cases present) rfl (by simp)
  exact .item isHeaded_sizes (by decide) listed (by simpa using isField_label) fieldFault_size

theorem configurationFault_shop :
    ConfigurationFault shopDocument (.unknownWidget "size" "slider") := by
  have fields : shopCollection.member? "fields" =
      some (.array ([] ++ sizesField :: [plainField "label" "string"])) := rfl
  have collections : shopDocument.member? "collections" =
      some (.array ([] ++ shopCollection :: [])) := rfl
  have inside : CollectionFault shopCollection (.unknownWidget "size" "slider") :=
    .field ⟨rfl, rfl⟩ ⟨_, rfl, _, rfl, rfl⟩ fields (by simp) fieldFault_sizes
  exact .collection collections (by simp) (.inside ⟨_, rfl⟩ inside)

/--
Everything behind the fault is replaced: in the list, in the collection and in the
document.
-/
theorem rewrittenDocument_shop : RewrittenDocument shopDocument rewrittenShop := by
  have size : ¬ IsField 1 (plainField "size" "slider") :=
    exists_fieldFault_iff.mp ⟨_, fieldFault_size⟩
  have sizes : ¬ IsField 0 sizesField := exists_fieldFault_iff.mp ⟨_, fieldFault_sizes⟩
  have shop : ¬ IsCollection shopCollection := by
    rintro ⟨_, _, _, fields, present, accepted⟩
    cases present
    exact sizes (accepted sizesField (by simp))
  have items : sizesField.member? "fields" =
      some (.array ([plainField "label" "string"] ++ plainField "size" "slider" ::
        [plainField "label" "string"])) := rfl
  have list : RewrittenField 0 sizesField
      (sizesField.withMember "fields"
        (.array ([plainField "label" "string"] ++ plainField "size" "slider" :: [.null]))) :=
    .several isHeaded_sizes (by decide) (fun single present => by cases present) items
      (by simpa using isField_label) size .same
  have fields : shopCollection.member? "fields" =
      some (.array ([] ++ sizesField :: [plainField "label" "string"])) := rfl
  have inside : RewrittenCollection shopCollection
      (shopCollection.withMember "fields"
        (.array ([] ++ sizesField.withMember "fields"
          (.array ([plainField "label" "string"] ++ plainField "size" "slider" :: [.null])) ::
            [.boolean true]))) :=
    .field fields (by simp) sizes list
  have collections : shopDocument.member? "collections" =
      some (.array ([] ++ shopCollection :: [])) := rfl
  have replaced : rewrittenShop.member? "collections" =
      some (.array ([] ++ shopCollection.withMember "fields"
        (.array ([] ++ sizesField.withMember "fields"
          (.array ([plainField "label" "string"] ++ plainField "size" "slider" :: [.null])) ::
            [.boolean true])) :: [.string "blog"])) := rfl
  exact .collection collections (by simp) shop inside replaced

/-- The same error comes from a document that shares nothing behind the first fault. -/
theorem error_of_rewrittenShop :
    config (some "content") shopDocument = .error (.unknownWidget "size" "slider") ∧
      config none rewrittenShop = .error (.unknownWidget "size" "slider") ∧
      ∃ collections,
        [collectionOf "blog" "posts" []].mapM (collectionObject none) = .ok collections ∧
          locales (.object [("collections", .array [collectionOf "blog" "posts" []]),
            ("i18n", .object [("locales", .string "en")])]) = .error invalidLocales := by
  rcases first_fault_decides with ⟨_, documents, rewritings, last⟩
  have failed := (documents (some "content") shopDocument _).mpr configurationFault_shop
  refine ⟨failed, rewritings _ none _ _ _ failed rewrittenDocument_shop, ?_⟩
  rcases last none (.object [("collections", .array [collectionOf "blog" "posts" []]),
    ("i18n", .object [("locales", .string "en")])]) invalidLocales rfl rfl with
    ⟨_, collections, listed, converted, unusable⟩
  cases listed
  exact ⟨collections, converted, unusable⟩

end Descriptor

end ContentSchema
