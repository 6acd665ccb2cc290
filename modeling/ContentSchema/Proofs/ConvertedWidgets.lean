import Mathlib
import ContentSchema.Proofs.FirstFault
import ContentSchema.Proofs.Hygiene

/-!
# What converted configurations keep

Generation trusts a configuration: it looks neither for blank names nor for empty
lists, stale enumerations or relations to several entries that are required.  None of
these comes out of a conversion.  Every widget inside a converted field, at whatever
depth, was itself converted from the descriptor in its place; so what one step of the
conversion says about the widget that it builds holds of all of them, and the lists
that may still lie in one another bound every chain of lists.
-/

namespace ContentSchema

open Text (isBlank)
open Traversal (mapM_eq_ok_iff mapM_eq_some_iff exists_source_of_mem)
open Widget (Occurs)

namespace DocumentGrammar

/-- A widget inside another one, with the descriptor in its place inside that of the other. -/
inductive PartOf (descriptor : Document) (widget : Widget) : Document → Widget → Prop
  | self :
      PartOf descriptor widget descriptor widget
  | item {outer name required fields items field item}
      (listed : ListItems outer fields)
      (placed : (field, item) ∈ fields.zip items)
      (inside : PartOf descriptor widget field item) :
      PartOf descriptor widget outer (.list name required items)

/-- Whether a field asks to be required, which it does unless it says otherwise. -/
inductive Asks (descriptor : Document) : Bool → Prop
  | explicit {required}
      (present : descriptor.member? "required" = some (.boolean required)) :
      Asks descriptor required
  | understood
      (absent : descriptor.member? "required" = none) :
      Asks descriptor true

/-- What a widget keeps, given the descriptor in its place. -/
inductive Upholds (descriptor : Document) : Widget → Prop
  | scalar {name required kind}
      (named : isBlank name = false)
      (asked : Asks descriptor required) :
      Upholds descriptor (.leaf name required (.scalar kind))
  | select {name required options}
      (named : isBlank name = false)
      (asked : Asks descriptor required)
      (filled : options ≠ []) :
      Upholds descriptor (.leaf name required (.select options (Expression.oneOf options)))
  | reference {name required collection}
      (named : isBlank name = false)
      (asked : Asks descriptor required)
      (target : isBlank collection = false) :
      Upholds descriptor (.leaf name required (.relation collection false))
  | references {name collection}
      (named : isBlank name = false)
      (target : isBlank collection = false) :
      Upholds descriptor (.leaf name false (.relation collection true))
  | list {name items}
      (named : isBlank name = false)
      (filled : items ≠ []) :
      Upholds descriptor (.list name false items)

/-- A chain of so many lists, each of which is an item of the one before. -/
inductive ListChain : Nat → Widget → Prop
  | last {name required items} :
      ListChain 1 (.list name required items)
  | next {length name required items item}
      (member : item ∈ items)
      (inside : ListChain length item) :
      ListChain (length + 1) (.list name required items)

/-- What a whole field keeps, given its descriptor. -/
structure FieldUpholds (field : Document) (made : Widget) : Prop where
  /-- Every widget inside the field has a descriptor in its place. -/
  described : ∀ widget, Occurs widget made → ∃ descriptor, PartOf descriptor widget field made
  upheld : ∀ descriptor widget, PartOf descriptor widget field made → Upholds descriptor widget
  shallow : ∀ widget length, Occurs widget made → ListChain length widget → length ≤ 32

/-- What a whole configuration keeps, given its document and the lead in front of folders. -/
structure ConfigUpholds (lead : Option String) (document : Document) (made : Config) : Prop where
  collections : ∀ collection ∈ made.collections,
    isBlank collection.name = false ∧ isBlank collection.folder = false
  lead : ∀ collection ∈ made.collections, ∀ text,
    collection.pathPrefix = some text ↔ lead = some text ∧ text ≠ ""
  locales : ∀ locale ∈ made.locales, isBlank locale = false
  /-- Collection by collection, every field upholds what its descriptor says. -/
  fields : ∃ descriptors,
    document.member? "collections" = some (.array descriptors) ∧
      List.Forall₂ (fun descriptor collection => ∃ fields,
          descriptor.member? "fields" = some (.array fields) ∧
            List.Forall₂ FieldUpholds fields collection.widgets)
        descriptors made.collections

end DocumentGrammar

namespace Descriptor

open DocumentGrammar

theorem listItems_unique
    {descriptor : Document} {items others : List Document}
    (listed : ListItems descriptor items)
    (again : ListItems descriptor others) :
    others = items := by
  rw [← @listItems_eq_ok_iff_listItems _ ""] at listed again
  rw [listed] at again
  cases again
  rfl

/-! ## One step of a conversion -/

theorem asks_of_heading
    {descriptor : Document} {name : String} {tag : Tag} {required : Bool}
    (heading : Heading descriptor name tag required) :
    Asks descriptor required := by
  rcases flag_eq_ok_iff.mp heading.flagged with ⟨absent, rfl⟩ | present
  · exact .understood absent
  · exact .explicit present

theorem not_isBlank_of_heading
    {descriptor : Document} {name : String} {tag : Tag} {required : Bool}
    (heading : Heading descriptor name tag required) :
    isBlank name = false :=
  (requiredText_eq_ok_iff.mp heading.named).2

theorem ne_nil_of_listItems
    {descriptor : Document} {items : List Document}
    (listed : ListItems descriptor items) :
    items ≠ [] := by
  cases listed with
  | one _ _ => exact List.cons_ne_nil _ _
  | several _ _ filled => exact filled

theorem ofLeaf_eq_leaf
    {content : Leaf}
    (free : content.mayBeRequired = true)
    (name : String)
    (required : Bool) :
    Widget.ofLeaf name required content = .leaf name required content := by
  rw [Widget.ofLeaf, free, Bool.and_true]

/-- Every widget that is converted upholds what its own descriptor says. -/
theorem upholds_of_widgetWithin
    {lists : Nat} {descriptor : Document} {made : Widget}
    (success : widgetWithin lists descriptor = .ok made) :
    Upholds descriptor made := by
  cases widgetWithin_eq_ok_iff.mp success with
  | scalar heading =>
      rw [ofLeaf_eq_leaf rfl]
      exact .scalar (not_isBlank_of_heading heading) (asks_of_heading heading)
  | select heading choice =>
      rcases selectLeaf_eq_ok_iff.mp choice with ⟨options, texts, _, filled, converted, rfl⟩
      rw [ofLeaf_eq_leaf rfl]
      refine .select (not_isBlank_of_heading heading) (asks_of_heading heading) ?_
      have lengths := (mapM_eq_some_iff.mp converted).length_eq
      rwa [← List.length_pos_iff, ← lengths, List.length_pos_iff]
  | @relation _ _ _ required _ heading target =>
      rcases relationLeaf_eq_ok_iff.mp target with ⟨collection, multiple, _, filled, _, rfl⟩
      cases multiple with
      | false =>
          rw [ofLeaf_eq_leaf rfl]
          exact .reference (not_isBlank_of_heading heading) (asks_of_heading heading) filled
      | true =>
          have optional : (required && (Leaf.relation collection true).mayBeRequired) = false :=
            Bool.and_false required
          rw [Widget.ofLeaf, optional]
          exact .references (not_isBlank_of_heading heading) filled
  | list heading inside converted =>
      refine .list (not_isBlank_of_heading heading) ?_
      have filled := ne_nil_of_listItems (listItems_eq_ok_iff_listItems.mp inside)
      rwa [← List.length_pos_iff, ← converted.length_eq, List.length_pos_iff]

/-! ## Widgets inside a converted field -/

/-- The items of a converted list come from its fields, with one list less to go. -/
theorem exists_of_widgetWithin_list
    {lists : Nat} {descriptor : Document} {name : String} {required : Bool}
    {items : List Widget}
    (success : widgetWithin lists descriptor = .ok (.list name required items)) :
    ∃ further fields, lists = further + 1 ∧ ListItems descriptor fields ∧
      List.Forall₂ (fun field item => widgetWithin further field = .ok item) fields items := by
  generalize same : Widget.list name required items = made at success
  cases widgetWithin_eq_ok_iff.mp success with
  | list heading inside converted =>
      cases same
      exact ⟨_, _, rfl, listItems_eq_ok_iff_listItems.mp inside, converted⟩
  | _ =>
      cases same

/-- A part of a converted widget is converted from the descriptor in its place. -/
theorem exists_widgetWithin_of_partOf
    {lists : Nat} {outer descriptor : Document} {made widget : Widget}
    (success : widgetWithin lists outer = .ok made)
    (part : PartOf descriptor widget outer made) :
    ∃ further ≤ lists, widgetWithin further descriptor = .ok widget := by
  induction part generalizing lists with
  | self =>
      exact ⟨lists, le_rfl, success⟩
  | item listed placed _ ih =>
      rcases exists_of_widgetWithin_list success with ⟨further, fields, rfl, again, converted⟩
      cases listItems_unique listed again
      have success := (List.forall₂_iff_zip.mp converted).2 placed
      rcases ih success with ⟨left, fewer, success⟩
      exact ⟨left, Nat.le_succ_of_le fewer, success⟩

theorem exists_mem_zip_of_mem
    {fields : List Document} {items : List Widget} {item : Widget}
    (lengths : fields.length = items.length)
    (member : item ∈ items) :
    ∃ field, (field, item) ∈ fields.zip items := by
  rw [← List.map_snd_zip lengths.ge, List.mem_map] at member
  rcases member with ⟨⟨field, _⟩, placed, rfl⟩
  exact ⟨field, placed⟩

/-- Every widget inside a converted one has a descriptor in its place. -/
theorem exists_partOf_of_occurs
    {lists : Nat} {field : Document} {made widget : Widget}
    (success : widgetWithin lists field = .ok made)
    (occurs : Occurs widget made) :
    ∃ descriptor, PartOf descriptor widget field made := by
  induction occurs generalizing lists field with
  | self =>
      exact ⟨field, .self⟩
  | inside member occurs ih =>
      rcases exists_of_widgetWithin_list success with ⟨further, fields, rfl, listed, converted⟩
      rcases exists_mem_zip_of_mem converted.length_eq member with ⟨field, placed⟩
      have success := (List.forall₂_iff_zip.mp converted).2 placed
      rcases ih success with ⟨descriptor, part⟩
      exact ⟨descriptor, .item listed placed part⟩

/-- Lists are nested only as far as conversion admits. -/
theorem length_le_of_listChain
    {lists length : Nat} {field : Document} {made : Widget}
    (success : widgetWithin lists field = .ok made)
    (chain : ListChain length made) :
    length ≤ lists := by
  induction chain generalizing lists field with
  | last =>
      rcases exists_of_widgetWithin_list success with ⟨further, _, rfl, _, _⟩
      exact Nat.le_add_left 1 further
  | next member _ ih =>
      rcases exists_of_widgetWithin_list success with ⟨further, _, rfl, _, converted⟩
      rcases exists_source_of_mem converted member with ⟨_, _, success⟩
      exact Nat.succ_le_succ (ih success)

/-- A field that was converted upholds all that is asked of it. -/
theorem fieldUpholds_of_widget
    {field : Document} {made : Widget}
    (success : widget field = .ok made) :
    FieldUpholds field made where
  described := fun _ => exists_partOf_of_occurs success
  upheld := by
    intro descriptor inner part
    rcases exists_widgetWithin_of_partOf success part with ⟨_, _, success⟩
    exact upholds_of_widgetWithin success
  shallow := by
    intro inner length occurs chain
    rcases exists_partOf_of_occurs success occurs with ⟨descriptor, part⟩
    rcases exists_widgetWithin_of_partOf success part with ⟨further, fewer, success⟩
    exact (length_le_of_listChain success chain).trans fewer

/-! ## Collections and whole documents -/

theorem usablePrefix_eq_some_iff {lead : Option String} {text : String} :
    usablePrefix lead = some text ↔ lead = some text ∧ text ≠ "" := by
  simp [usablePrefix, Option.filter_eq_some_iff]

/-- Whatever document a configuration was converted from, it keeps all that generation needs. -/
theorem configUpholds_of_config
    {lead : Option String} {document : Document} {made : Config}
    (success : config lead document = .ok made) :
    ConfigUpholds lead document made := by
  rcases config_eq_ok_iff.mp success with
    ⟨descriptors, collections, codes, listed, converted, read, rfl⟩
  have each := mapM_eq_ok_iff.mp converted
  have built : ∀ descriptor collection,
      collectionObject lead descriptor = .ok collection →
        isBlank collection.name = false ∧ isBlank collection.folder = false ∧
          ∃ fields, descriptor.member? "fields" = some (.array fields) ∧
            List.Forall₂ FieldUpholds fields collection.widgets := by
    intro descriptor collection accepted
    rcases collection_eq_ok_iff.mp (collectionObject_eq_ok_iff.mp accepted).2 with
      ⟨name, folder, fields, widgets, named, placed, present, inside, rfl⟩
    refine ⟨(requiredText_eq_ok_iff.mp named).2, (requiredText_eq_ok_iff.mp placed).2, fields,
      present, ?_⟩
    exact (mapM_eq_ok_iff.mp inside).imp fun _ _ => fieldUpholds_of_widget
  constructor
  · intro collection member
    rcases exists_source_of_mem each member with ⟨descriptor, _, accepted⟩
    rcases built descriptor collection accepted with ⟨named, placed, _⟩
    exact ⟨named, placed⟩
  · intro collection member text
    rw [pathPrefix_of_config success member, usablePrefix_eq_some_iff]
  · exact fun _ => not_isBlank_of_locales read
  · refine ⟨descriptors, (collectionDescriptors_eq_ok_iff.mp listed).2, ?_⟩
    exact each.imp fun descriptor collection accepted =>
      (built descriptor collection accepted).2.2

/-- A relation to several entries that asks to be required. -/
def authorsField : Document :=
  .object [
    ("collection", .string "people"),
    ("multiple", .boolean true),
    ("name", .string "authors"),
    ("required", .boolean true),
    ("widget", .string "relation")]

/-- A date that may be missing. -/
def printedField : Document :=
  .object [
    ("name", .string "printed"),
    ("required", .boolean false),
    ("widget", .string "datetime")]

/-- A list of records, with a relation and a date as its fields. -/
def booksField : Document :=
  .object [
    ("fields", .array [authorsField, printedField]),
    ("name", .string "books"),
    ("widget", .string "list")]

/-- A list of such lists, which asks to be required as well. -/
def shelvesField : Document :=
  .object [
    ("field", booksField),
    ("name", .string "shelves"),
    ("required", .boolean true),
    ("widget", .string "list")]

/-- The configuration that the library document is converted to: a list inside a list. -/
def libraryConfig : Config :=
  ⟨[⟨"library", "books",
    [.list "shelves" false [.list "books" false
      [ .leaf "authors" false (.relation "people" true),
        .leaf "printed" false (.scalar .datetime) ]]],
    none⟩], []⟩

/-- The empty lead counts as none, and nothing in the list of lists ends up required. -/
theorem configUpholds_library :
    config (some "") (documentOf "library" "books" [shelvesField]) = .ok libraryConfig ∧
      ConfigUpholds (some "") (documentOf "library" "books" [shelvesField]) libraryConfig := by
  have authors : widgetWithin 30 authorsField =
      .ok (.leaf "authors" false (.relation "people" true)) :=
    widgetWithin_eq_ok_iff.mpr
      (@FieldStep.relation 30 _ "authors" true (.relation "people" true) ⟨rfl, rfl, rfl⟩ rfl)
  have printed : widgetWithin 30 printedField =
      .ok (.leaf "printed" false (.scalar .datetime)) :=
    widgetWithin_eq_ok_iff.mpr
      (@FieldStep.scalar 30 _ "printed" false .datetime ⟨rfl, rfl, rfl⟩)
  have books : widgetWithin 31 booksField = .ok (.list "books" false _) :=
    widgetWithin_eq_ok_iff.mpr (.list ⟨rfl, rfl, rfl⟩ rfl (.cons authors (.cons printed .nil)))
  have shelves : widget shelvesField = .ok (.list "shelves" false _) :=
    widgetWithin_eq_ok_iff.mpr (.list ⟨rfl, rfl, rfl⟩ rfl (.cons books .nil))
  have success : config (some "") (documentOf "library" "books" [shelvesField]) =
      .ok libraryConfig := by
    apply config_documentOf rfl rfl
    rw [List.mapM_cons, shelves]
    rfl
  exact ⟨success, configUpholds_of_config success⟩

end Descriptor

end ContentSchema
