import Mathlib
import ContentSchema.Descriptor
import ContentSchema.Proofs.Traversal

/-!
# The steps of the conversion of a descriptor

Every function of the conversion looks at a few properties of a descriptor and
succeeds in a few ways.  This module says for each function what its success
means in terms of the members of the descriptor, and puts the four ways in which
a field succeeds together as `FieldStep`.

Later results about accepted documents, about the configurations they build and
about the errors of the others start from these equivalences and do not open the
conversion again.
-/

namespace ContentSchema

open Text (isBlank)
open Traversal (ok_bind bind_eq_ok_iff mapM_eq_ok_iff mapM_eq_some_iff exists_source_of_mem)

theorem Tag.ofText?_eq_some_iff {text : String} {tag : Tag} :
    Tag.ofText? text = some tag ↔ text = tag.text := by
  constructor
  · intro found
    unfold Tag.ofText? at found
    have named := List.find?_some found
    exact (eq_of_beq named).symm
  · rintro rfl
    exact Tag.ofText?_text tag

namespace Descriptor

/-! ## Single properties -/

theorem usableText?_eq_some_iff {value : Document} {text : String} :
    usableText? value = some text ↔
      value = .string text ∧ isBlank text = false := by
  cases value with
  | string content =>
      simp only [usableText?, Option.ite_none_left_eq_some, Option.some.injEq,
        Document.string.injEq, Bool.not_eq_true]
      constructor
      · rintro ⟨filled, rfl⟩
        exact ⟨rfl, filled⟩
      · rintro ⟨rfl, filled⟩
        exact ⟨filled, rfl⟩
  | _ =>
      simp [usableText?]

/-- A required property is given when it is a text that is not blank. -/
theorem requiredText_eq_ok_iff
    {descriptor : Document} {property context text : String} :
    requiredText descriptor property context = .ok text ↔
      descriptor.member? property = some (.string text) ∧
        isBlank text = false := by
  unfold requiredText
  cases descriptor.member? property with
  | none =>
      simp
  | some value =>
      rw [Option.some.injEq, ← usableText?_eq_some_iff]
      cases found : usableText? value <;> simp [found]

/-- A flag has its default where it is missing; `null` is not a missing flag. -/
theorem flag_eq_ok_iff
    {descriptor : Document} {property context : String} {default value : Bool} :
    flag descriptor property context default = .ok value ↔
      (descriptor.member? property = none ∧ value = default) ∨
        descriptor.member? property = some (.boolean value) := by
  unfold flag
  cases descriptor.member? property with
  | none =>
      simp [eq_comm]
  | some content =>
      cases content <;> simp

theorem widgetTag_eq_ok_iff
    {descriptor : Document} {name : String} {tag : Tag} :
    widgetTag descriptor name = .ok tag ↔
      descriptor.member? "widget" = some (.string tag.text) := by
  unfold widgetTag
  cases descriptor.member? "widget" with
  | none =>
      simp
  | some content =>
      cases content with
      | string text =>
          simp only [Option.some.injEq, Document.string.injEq]
          rw [← Tag.ofText?_eq_some_iff]
          cases Tag.ofText? text <;> simp
      | _ =>
          simp

/-! ## What the kinds of widget need -/

theorem optionText?_eq_some_iff {option : Document} {text : String} :
    optionText? option = some text ↔
      option = .string text ∨
        option.member? "value" = some (.string text) := by
  have string?_eq_some_iff : ∀ value : Document,
      value.string? = some text ↔ value = .string text := by
    intro value
    cases value <;> simp [Document.string?]
  cases option with
  | string content =>
      simp [optionText?, Document.member?]
  | _ =>
      simp [optionText?, Option.bind_eq_some_iff, string?_eq_some_iff]

/-- A choice is accepted when it has options and each of them has a text. -/
theorem selectLeaf_eq_ok_iff
    {descriptor : Document} {name : String} {leaf : Leaf} :
    selectLeaf descriptor name = .ok leaf ↔
      ∃ options texts,
        descriptor.member? "options" = some (.array options) ∧
          options ≠ [] ∧
          options.mapM optionText? = some texts ∧
          leaf = .selectOf texts := by
  unfold selectLeaf
  split
  · rename_i first rest present
    rw [present]
    constructor
    · intro success
      cases texts : (first :: rest).mapM optionText? with
      | none =>
          simp [texts] at success
      | some options =>
          rw [texts] at success
          cases success
          exact ⟨_, options, rfl, List.cons_ne_nil _ _, texts, rfl⟩
    · rintro ⟨options, texts, same, _, converted, rfl⟩
      cases same
      rw [converted]
  · rename_i other
    constructor
    · intro success
      cases success
    · rintro ⟨options, texts, present, filled, _, _⟩
      rcases List.exists_cons_of_ne_nil filled with ⟨first, rest, rfl⟩
      exact absurd present (other first rest)

/-- A relation is accepted when it names a collection; whether it is multiple is a flag. -/
theorem relationLeaf_eq_ok_iff
    {descriptor : Document} {name : String} {leaf : Leaf} :
    relationLeaf descriptor name = .ok leaf ↔
      ∃ collection multiple,
        descriptor.member? "collection" = some (.string collection) ∧
          isBlank collection = false ∧
          flag descriptor "multiple" (fieldContext name) false = .ok multiple ∧
          leaf = .relation collection multiple := by
  have target : ∀ collection,
      (descriptor.member? "collection").bind usableText? = some collection ↔
        descriptor.member? "collection" = some (.string collection) ∧
          isBlank collection = false := by
    intro collection
    simp only [Option.bind_eq_some_iff, usableText?_eq_some_iff]
    constructor
    · rintro ⟨_, present, rfl, filled⟩
      exact ⟨present, filled⟩
    · rintro ⟨present, filled⟩
      exact ⟨_, present, rfl, filled⟩
  unfold relationLeaf
  split
  · rename_i missing
    constructor
    · intro success
      cases success
    · rintro ⟨collection, _, present, filled, _, _⟩
      rw [(target collection).2 ⟨present, filled⟩] at missing
      cases missing
  · rename_i collection found
    have present := (target collection).1 found
    rw [bind_eq_ok_iff]
    constructor
    · rintro ⟨multiple, flagged, made⟩
      cases made
      exact ⟨collection, multiple, present.1, present.2, flagged, rfl⟩
    · rintro ⟨other, multiple, samePlace, _, flagged, rfl⟩
      rw [present.1] at samePlace
      cases samePlace
      exact ⟨multiple, flagged, rfl⟩

/--
The items of a list are its single field if that is an object, and else its fields, of
which there has to be one.
-/
theorem listItems_eq_ok_iff
    {descriptor : Document} {name : String} {items : List Document} :
    listItems descriptor name = .ok items ↔
      (∃ members,
        descriptor.member? "field" = some (.object members) ∧
          items = [.object members]) ∨
      ((∀ members, descriptor.member? "field" ≠ some (.object members)) ∧
        descriptor.member? "fields" = some (.array items) ∧
        items ≠ []) := by
  unfold listItems
  split
  · rename_i members _ single
    rw [single]
    simp [eq_comm]
  · rename_i first rest several notSingle
    have none : ∀ members, descriptor.member? "field" ≠ some (.object members) :=
      notSingle
    rw [several]
    constructor
    · intro success
      cases success
      exact .inr ⟨none, rfl, List.cons_ne_nil _ _⟩
    · rintro (⟨members, single, _⟩ | ⟨_, same, _⟩)
      · exact absurd single (none members)
      · cases same
        rfl
  · rename_i notSingle notSeveral
    constructor
    · intro success
      cases success
    · rintro (⟨members, single, _⟩ | ⟨_, several, filled⟩)
      · exact absurd single (notSingle members)
      · rcases List.exists_cons_of_ne_nil filled with ⟨first, rest, rfl⟩
        exact absurd several (notSeveral first rest)

/-! ## A whole field -/

/-- The properties that every field has: a name, a kind and whether it is required. -/
structure Heading
    (descriptor : Document) (name : String) (tag : Tag) (required : Bool) :
    Prop where
  named : requiredText descriptor "name" (fieldContext descriptor.compact) = .ok name
  tagged : widgetTag descriptor name = .ok tag
  flagged : flag descriptor "required" (fieldContext name) true = .ok required

/--
The four ways in which a field becomes a widget, when so many lists may still lie
in one another.
-/
inductive FieldStep : Nat → Document → Widget → Prop
  | scalar {lists descriptor name required kind}
      (heading : Heading descriptor name (.scalar kind) required) :
      FieldStep lists descriptor (.ofLeaf name required (.scalar kind))
  | select {lists descriptor name required leaf}
      (heading : Heading descriptor name .select required)
      (choice : selectLeaf descriptor name = .ok leaf) :
      FieldStep lists descriptor (.ofLeaf name required leaf)
  | relation {lists descriptor name required leaf}
      (heading : Heading descriptor name .relation required)
      (target : relationLeaf descriptor name = .ok leaf) :
      FieldStep lists descriptor (.ofLeaf name required leaf)
  | list {lists descriptor name required fields items}
      (heading : Heading descriptor name .list required)
      (inside : listItems descriptor name = .ok fields)
      (converted : List.Forall₂
        (fun field item => widgetWithin lists field = .ok item) fields items) :
      FieldStep (lists + 1) descriptor (.ofItems name items)

/-- Conversion to a widget is one of the four steps, and each step is one. -/
theorem widgetWithin_eq_ok_iff
    {lists : Nat} {descriptor : Document} {widget : Widget} :
    widgetWithin lists descriptor = .ok widget ↔
      FieldStep lists descriptor widget := by
  constructor
  · intro success
    rw [widgetWithin.eq_def] at success
    simp only [bind_eq_ok_iff] at success
    rcases success with ⟨name, named, tag, tagged, required, flagged, success⟩
    have heading : Heading descriptor name tag required := ⟨named, tagged, flagged⟩
    cases tag with
    | scalar kind =>
        cases success
        exact .scalar heading
    | select =>
        rcases bind_eq_ok_iff.mp success with ⟨leaf, choice, made⟩
        cases made
        exact .select heading choice
    | relation =>
        rcases bind_eq_ok_iff.mp success with ⟨leaf, target, made⟩
        cases made
        exact .relation heading target
    | list =>
        cases lists with
        | zero =>
            cases success
        | succ lists =>
            rcases bind_eq_ok_iff.mp success with ⟨fields, inside, success⟩
            rcases bind_eq_ok_iff.mp success with ⟨items, converted, made⟩
            cases made
            exact .list heading inside (mapM_eq_ok_iff.mp converted)
  · intro step
    rw [widgetWithin.eq_def]
    cases step with
    | scalar heading =>
        simp only [heading.named, heading.tagged, heading.flagged, ok_bind]
        rfl
    | select heading choice =>
        simp only [heading.named, heading.tagged, heading.flagged, choice, ok_bind]
        rfl
    | relation heading target =>
        simp only [heading.named, heading.tagged, heading.flagged, target, ok_bind]
        rfl
    | list heading inside converted =>
        have traversed := mapM_eq_ok_iff.mpr converted
        simp only [heading.named, heading.tagged, heading.flagged, inside,
          traversed, ok_bind]
        rfl

/--
Induction along a conversion: what holds of every leaf, and of a list whenever it
holds of the items one level deeper, holds of every widget that is built.
-/
theorem widgetWithin_induction
    {motive : Nat → Document → Widget → Prop}
    (scalar : ∀ {lists descriptor name required kind},
      Heading descriptor name (.scalar kind) required →
        motive lists descriptor (.ofLeaf name required (.scalar kind)))
    (select : ∀ {lists descriptor name required leaf},
      Heading descriptor name .select required →
      selectLeaf descriptor name = .ok leaf →
        motive lists descriptor (.ofLeaf name required leaf))
    (relation : ∀ {lists descriptor name required leaf},
      Heading descriptor name .relation required →
      relationLeaf descriptor name = .ok leaf →
        motive lists descriptor (.ofLeaf name required leaf))
    (list : ∀ {lists descriptor name required fields items},
      Heading descriptor name .list required →
      listItems descriptor name = .ok fields →
      List.Forall₂ (motive lists) fields items →
        motive (lists + 1) descriptor (.ofItems name items))
    {lists : Nat} {descriptor : Document} {made : Widget}
    (success : widgetWithin lists descriptor = .ok made) :
    motive lists descriptor made := by
  have holds : ∀ {lists descriptor made},
      (∀ further, lists = further + 1 → ∀ {descriptor made},
        widgetWithin further descriptor = .ok made →
          motive further descriptor made) →
      FieldStep lists descriptor made →
        motive lists descriptor made := by
    intro lists descriptor made deeper step
    cases step with
    | scalar heading =>
        exact scalar heading
    | select heading choice =>
        exact select heading choice
    | relation heading target =>
        exact relation heading target
    | list heading inside converted =>
        exact list heading inside
          (converted.imp fun _ _ success => deeper _ rfl success)
  induction lists generalizing descriptor made with
  | zero =>
      exact holds (fun _ none => by cases none)
        (widgetWithin_eq_ok_iff.mp success)
  | succ lists ih =>
      refine holds ?_ (widgetWithin_eq_ok_iff.mp success)
      intro further same descriptor made success
      cases same
      exact ih success

/-! ## Collections and whole documents -/

theorem collectionFields_eq_ok_iff
    {descriptor : Document} {name : String} {fields : List Document} :
    collectionFields descriptor name = .ok fields ↔
      descriptor.member? "fields" = some (.array fields) := by
  unfold collectionFields
  cases descriptor.member? "fields" with
  | none =>
      simp
  | some content =>
      cases content <;> simp

/--
A collection is accepted with its name, its folder and all its fields; its prefix is
that of the whole configuration.
-/
theorem collection_eq_ok_iff
    {lead : Option String} {descriptor : Document} {made : Collection} :
    collection lead descriptor = .ok made ↔
      ∃ name folder fields widgets,
        requiredText descriptor "name" "collection configuration" = .ok name ∧
          requiredText descriptor "folder" (collectionContext name) = .ok folder ∧
          descriptor.member? "fields" = some (.array fields) ∧
          fields.mapM widget = .ok widgets ∧
          made = ⟨name, folder, widgets, usablePrefix lead⟩ := by
  unfold collection
  simp only [bind_eq_ok_iff, collectionFields_eq_ok_iff]
  constructor
  · rintro ⟨name, named, folder, placed, fields, present, widgets, converted, built⟩
    cases built
    exact ⟨name, folder, fields, widgets, named, placed, present, converted, rfl⟩
  · rintro ⟨name, folder, fields, widgets, named, placed, present, converted, rfl⟩
    exact ⟨name, named, folder, placed, fields, present, widgets, converted, rfl⟩

theorem collectionObject_eq_ok_iff
    {lead : Option String} {descriptor : Document} {made : Collection} :
    collectionObject lead descriptor = .ok made ↔
      (∃ members, descriptor = .object members) ∧
        collection lead descriptor = .ok made := by
  cases descriptor <;> simp [collectionObject]

theorem collectionDescriptors_eq_ok_iff
    {document : Document} {descriptors : List Document} :
    collectionDescriptors document = .ok descriptors ↔
      (∃ members, document = .object members) ∧
        document.member? "collections" = some (.array descriptors) := by
  cases document with
  | object members =>
      unfold collectionDescriptors
      simp only [Document.object.injEq, exists_eq', true_and]
      cases (Document.object members).member? "collections" with
      | none =>
          simp
      | some content =>
          cases content <;> simp
  | _ =>
      simp [collectionDescriptors]

theorem not_isBlank_of_locales
    {document : Document} {codes : List String}
    (read : locales document = .ok codes)
    {code : String}
    (member : code ∈ codes) :
    isBlank code = false := by
  unfold locales at read
  split at read
  · cases read
    cases member
  · cases read
    cases member
  · split at read
    · rename_i found
      cases read
      rcases exists_source_of_mem (mapM_eq_some_iff.mp found) member with ⟨_, _, usable⟩
      exact (usableText?_eq_some_iff.mp usable).2
    · cases read
  · cases read

/-- A configuration is accepted when each of its collections is, and its locales with them. -/
theorem config_eq_ok_iff
    {lead : Option String} {document : Document} {made : Config} :
    config lead document = .ok made ↔
      ∃ descriptors collections codes,
        collectionDescriptors document = .ok descriptors ∧
          descriptors.mapM (collectionObject lead) = .ok collections ∧
          locales document = .ok codes ∧
          made = ⟨collections, codes⟩ := by
  unfold config
  simp only [bind_eq_ok_iff]
  constructor
  · rintro ⟨descriptors, listed, collections, converted, codes, read, built⟩
    cases built
    exact ⟨descriptors, collections, codes, listed, converted, read, rfl⟩
  · rintro ⟨descriptors, collections, codes, listed, converted, read, rfl⟩
    exact ⟨descriptors, listed, collections, converted, codes, read, rfl⟩

/-- All collections of a configuration have the same prefix. -/
theorem pathPrefix_of_config
    {lead : Option String} {document : Document} {made : Config}
    (accepted : config lead document = .ok made)
    {collection : Collection}
    (member : collection ∈ made.collections) :
    collection.pathPrefix = usablePrefix lead := by
  rcases config_eq_ok_iff.mp accepted with ⟨_, collections, _, _, converted, _, rfl⟩
  rcases exists_source_of_mem (mapM_eq_ok_iff.mp converted) member with ⟨_, _, accepted⟩
  rcases collection_eq_ok_iff.mp (collectionObject_eq_ok_iff.mp accepted).2 with
    ⟨_, _, _, _, _, _, _, _, rfl⟩
  rfl

/-! ## Documents with one collection -/

/-- The descriptor of a collection with given fields. -/
def collectionOf (name folder : String) (fields : List Document) : Document :=
  .object [("fields", .array fields), ("folder", .string folder), ("name", .string name)]

/-- A document with one collection and without locales. -/
def documentOf (name folder : String) (fields : List Document) : Document :=
  .object [("collections", .array [collectionOf name folder fields])]

/-- A document with one collection and no locales is converted by its fields alone. -/
theorem config_documentOf
    {lead : Option String} {name folder : String}
    {fields : List Document} {widgets : List Widget}
    (named : isBlank name = false)
    (placed : isBlank folder = false)
    (converted : fields.mapM widget = .ok widgets) :
    config lead (documentOf name folder fields) =
      .ok ⟨[⟨name, folder, widgets, usablePrefix lead⟩], []⟩ := by
  have made : collectionObject lead (collectionOf name folder fields) =
      .ok ⟨name, folder, widgets, usablePrefix lead⟩ := by
    refine collectionObject_eq_ok_iff.mpr ⟨⟨_, rfl⟩, ?_⟩
    refine collection_eq_ok_iff.mpr
      ⟨name, folder, fields, widgets, ?_, ?_, rfl, converted, rfl⟩
    · exact requiredText_eq_ok_iff.mpr ⟨rfl, named⟩
    · exact requiredText_eq_ok_iff.mpr ⟨rfl, placed⟩
  refine config_eq_ok_iff.mpr ⟨_, _, [], rfl, ?_, rfl, rfl⟩
  rw [List.mapM_cons, made]
  rfl

end Descriptor

end ContentSchema
